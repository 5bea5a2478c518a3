import WidgetPipeline.FileTree.Basic

/-!
The files that every system has: the usual directories, a few devices, the files that hold its
settings, and the tools. A run gets them together with the plain files of its own directory. Tools
that are given such a path need them, and scripts that list, test or search for files; the pipeline
itself only reads the files that its arguments name.
-/

namespace WidgetPipeline.FileTree

def standardDirectories : List String :=
  [
    "/boot", "/dev", "/dev/mqueue", "/dev/pts", "/dev/shm", "/etc", "/etc/alternatives", "/etc/apt",
    "/etc/default", "/etc/profile.d", "/etc/ssl", "/home", "/media", "/mnt", "/opt", "/proc",
    "/proc/self", "/proc/self/fd", "/proc/sys", "/root", "/run", "/run/lock", "/srv", "/sys",
    "/sys/class", "/sys/devices", "/sys/kernel", "/tmp", "/usr", "/usr/bin", "/usr/games",
    "/usr/include", "/usr/lib", "/usr/lib64", "/usr/libexec", "/usr/local", "/usr/local/bin", "/usr/local/etc",
    "/usr/local/include", "/usr/local/lib", "/usr/local/sbin", "/usr/local/share",
    "/usr/local/src", "/usr/sbin", "/usr/share", "/usr/share/doc", "/usr/src", "/var",
    "/var/backups", "/var/cache", "/var/lib", "/var/local", "/var/log", "/var/mail", "/var/opt",
    "/var/spool", "/var/tmp"
  ]

/-- Directories in which only owners take files away. -/
def stickyDirectories : List String :=
  ["/dev/mqueue", "/dev/shm", "/run/lock", "/tmp", "/var/tmp"]

/-- Directories that hand their groups down. -/
def groupDirectories : List String := ["/var/local", "/var/mail"]

/-- Whether a directory shows the system itself, and has no size. -/
def isSizeless (names : List String) : Bool :=
  names.head? = some "proc" || names.head? = some "sys" || names = ["dev", "pts"]

def standardLinks : List (String × String) :=
  [
    ("/bin", "/usr/bin"), ("/lib", "/usr/lib"), ("/lib64", "/usr/lib64"), ("/sbin", "/usr/sbin"),
    ("/usr/bin/sh", "/usr/bin/dash"), ("/dev/fd", "/proc/self/fd"),
    ("/dev/stdin", "/proc/self/fd/0"), ("/dev/stdout", "/proc/self/fd/1"),
    ("/dev/stderr", "/proc/self/fd/2"), ("/dev/ptmx", "/dev/pts/ptmx"), ("/var/run", "/run"),
    ("/var/lock", "/run/lock")
  ]

/-- Devices that every system has. What gives bytes without an end gives none here. -/
def standardDevices : List (String × Device) :=
  [
    ("/dev/null", .null), ("/dev/full", .full), ("/dev/tty", .terminal), ("/dev/zero", .null),
    ("/dev/random", .null), ("/dev/urandom", .null), ("/dev/pts/ptmx", .terminal),
    ("/proc/self/fd/0", .stream 0), ("/proc/self/fd/1", .stream 1), ("/proc/self/fd/2", .stream 2)
  ]

structure User where
  name : String
  number : Nat
  group : Nat
  comment : String
  home : String
  shell : String

def users : List User :=
  let plain (name : String) (number group : Nat) (home : String) : User :=
    { name, number, group, comment := name, home, shell := "/usr/sbin/nologin" }
  [{ plain "root" 0 0 "/root" with shell := "/bin/bash" },
    plain "daemon" 1 1 "/usr/sbin",
    plain "bin" 2 2 "/bin",
    plain "sys" 3 3 "/dev",
    { plain "sync" 4 65534 "/bin" with shell := "/bin/sync" },
    plain "games" 5 60 "/usr/games",
    plain "man" 6 12 "/var/cache/man",
    plain "lp" 7 7 "/var/spool/lpd",
    plain "mail" 8 8 "/var/mail",
    plain "news" 9 9 "/var/spool/news",
    plain "uucp" 10 10 "/var/spool/uucp",
    plain "proxy" 13 13 "/bin",
    plain "www-data" 33 33 "/var/www",
    plain "backup" 34 34 "/var/backups",
    { plain "list" 38 38 "/var/list" with comment := "Mailing List Manager" },
    { plain "irc" 39 39 "/run/ircd" with comment := "ircd" },
    { plain "_apt" 42 65534 "/nonexistent" with comment := "" },
    plain "nobody" 65534 65534 "/nonexistent"]

def User.line (user : User) : String :=
  ":".intercalate [user.name, "x", toString user.number, toString user.group, user.comment,
    user.home, user.shell] ++ "\n"

def userFile : String := "/etc/passwd"

/-- Files with settings that every system has, without that of the users. What they hold is one line
here. -/
def standardFiles : List String :=
  [
    "/etc/bash.bashrc", "/etc/fstab", "/etc/group", "/etc/host.conf", "/etc/hostname", "/etc/hosts",
    "/etc/issue", "/etc/issue.net", "/etc/ld.so.conf", "/etc/nsswitch.conf", "/etc/os-release",
    "/etc/profile", "/etc/resolv.conf", "/etc/shadow", "/etc/shells"
  ]

def toolDirectory : String := "/usr/bin"

def runDirectory : List String := ["tmp", "run"]

def standardNodes (tools : List String) : List (String × FileNode) :=
  standardDirectories.map (·, .directory) ++
    (standardLinks.map fun entry => (entry.1, .link entry.2)) ++
    (standardDevices.map fun entry => (entry.1, .device entry.2)) ++
    standardFiles.map (·, .file (Text.Utf8.encode "standard\n")) ++
    (userFile, .file (Text.Utf8.encode (String.join (users.map User.line)))) ::
    tools.map fun name => (toolDirectory ++ "/" ++ name, .program name)

/-- The files of a system with some tools, and in the run's directory the given ones. -/
def standard (tools : List String) (files : List (String × List UInt8)) : FileTree where
  nodes := .ofList (standardNodes tools ++ (pathOf runDirectory, .directory) ::
    files.map fun (name, bytes) => (pathOf (runDirectory ++ [Text.narrow name]), .file bytes))
  home := runDirectory

end WidgetPipeline.FileTree
