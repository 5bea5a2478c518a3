/-!
The BLAKE3 hash of a byte string, 32 bytes long. The input is cut into chunks of 1024 bytes and each
chunk into blocks of 64; the chunks are the leaves of a binary tree whose left half holds the largest
power of two of chunks that leaves some for the right.
-/

namespace WidgetPipeline.Digest.Blake3

abbrev Block := Vector UInt32 16

/-- Eight words that stand for the text hashed so far. -/
abbrev ChainingValue := Vector UInt32 8

def initial : ChainingValue :=
  #v[0x6A09E667, 0xBB67AE85, 0x3C6EF372, 0xA54FF53A, 0x510E527F, 0x9B05688C, 0x1F83D9AB, 0x5BE0CD19]

def chunkStart : UInt32 := 1

def chunkEnd : UInt32 := 2

/-- Marks a block that holds two chaining values. -/
def parent : UInt32 := 4

/-- Marks the last block of all, whose output is the hash. -/
def root : UInt32 := 8

/-- The order in which a round takes the words of the round before. -/
def permutation : Vector (Fin 16) 16 :=
  #v[2, 6, 3, 10, 7, 0, 4, 13, 1, 11, 12, 5, 9, 14, 15, 8]

def permute (block : Block) : Block := permutation.map fun i => block[i]

def rotateRight (word : UInt32) (count : UInt32) : UInt32 :=
  (word >>> count) ||| (word <<< (32 - count))

/-- Mixes two message words into four words of the state. -/
def mix (a b c d : Fin 16) (x y : UInt32) (s : Block) : Block :=
  let wa := s[a] + s[b] + x
  let wd := rotateRight (s[d] ^^^ wa) 16
  let wc := s[c] + wd
  let wb := rotateRight (s[b] ^^^ wc) 12
  let wa := wa + wb + y
  let wd := rotateRight (wd ^^^ wa) 8
  let wc := wc + wd
  let wb := rotateRight (wb ^^^ wc) 7
  (((s.set a wa).set b wb).set c wc).set d wd

def round (m : Block) (s : Block) : Block :=
  let s := mix 0 4 8 12 m[0] m[1] s
  let s := mix 1 5 9 13 m[2] m[3] s
  let s := mix 2 6 10 14 m[4] m[5] s
  let s := mix 3 7 11 15 m[6] m[7] s
  let s := mix 0 5 10 15 m[8] m[9] s
  let s := mix 1 6 11 12 m[10] m[11] s
  let s := mix 2 7 8 13 m[12] m[13] s
  mix 3 4 9 14 m[14] m[15] s

/-- Runs a number of rounds, permuting the message between them. -/
def rounds : Nat → Block → Block → Block
  | 0, _, s => s
  | n + 1, m, s => rounds n (permute m) (round m s)

/-- The chaining value after a block of `size` bytes. -/
def compress (cv : ChainingValue) (block : Block) (counter : UInt64) (size flags : UInt32) :
    ChainingValue :=
  let s : Block :=
    #v[cv[0], cv[1], cv[2], cv[3], cv[4], cv[5], cv[6], cv[7],
      initial[0], initial[1], initial[2], initial[3],
      counter.toUInt32, (counter >>> 32).toUInt32, size, flags]
  let s := rounds 7 block s
  #v[s[0] ^^^ s[8], s[1] ^^^ s[9], s[2] ^^^ s[10], s[3] ^^^ s[11],
    s[4] ^^^ s[12], s[5] ^^^ s[13], s[6] ^^^ s[14], s[7] ^^^ s[15]]

/-- The word of four bytes, the lowest first. -/
def word (bytes : Array UInt8) (start : Nat) : UInt32 :=
  let byte (i : Nat) : UInt32 := (bytes.getD (start + i) 0).toUInt32
  byte 0 ||| (byte 1 <<< 8) ||| (byte 2 <<< 16) ||| (byte 3 <<< 24)

/-- The words of a block of at most 64 bytes, with zeros behind the bytes. -/
def blockOfBytes (bytes : List UInt8) : Block :=
  let bytes := bytes.toArray
  Vector.ofFn fun i => word bytes (4 * i.val)

/-- The chaining value of a chunk, whose last block carries the extra flags. -/
def chunk (extra : UInt32) (counter : UInt64) (cv : ChainingValue) (start : UInt32)
    (bytes : List UInt8) : ChainingValue :=
  if _h : bytes.length ≤ 64 then
    compress cv (blockOfBytes bytes) counter bytes.length.toUInt32 (start ||| chunkEnd ||| extra)
  else
    let cv := compress cv (blockOfBytes (bytes.take 64)) counter 64 start
    chunk extra counter cv 0 (bytes.drop 64)
termination_by bytes.length
decreasing_by simp only [List.length_drop]; omega

/-- The number of bytes in the left half of a tree of more than 1024: the largest power of two of
chunks that leaves at least one byte. -/
def leftLength (length : Nat) : Nat := 1024 * Nat.pow 2 ((length - 1) / 1024).log2

theorem leftLength_lt {length : Nat} (h : 1024 < length) : leftLength length < length := by
  have hne : (length - 1) / 1024 ≠ 0 := by omega
  have := Nat.log2_self_le hne
  rw [leftLength, Nat.pow_eq]
  omega

theorem leftLength_pos (length : Nat) : 0 < leftLength length := by
  rw [leftLength, Nat.pow_eq]
  have := Nat.two_pow_pos ((length - 1) / 1024).log2
  omega

/-- The chaining value of a tree over the bytes, whose first chunk has the number `counter`. -/
def tree (extra : UInt32) (counter : UInt64) (bytes : List UInt8) : ChainingValue :=
  if _h : bytes.length ≤ 1024 then chunk extra counter initial chunkStart bytes
  else
    let half := leftLength bytes.length
    let left := tree 0 counter (bytes.take half)
    let right := tree 0 (counter + (half / 1024).toUInt64) (bytes.drop half)
    compress initial (left ++ right) 0 64 (parent ||| extra)
termination_by bytes.length
decreasing_by
  · have := leftLength_lt (Nat.lt_of_not_le _h)
    simp only [List.length_take]
    omega
  · have := leftLength_pos bytes.length
    simp only [List.length_drop]
    omega

/-- The four bytes of a word, the lowest first. -/
def wordBytes (w : UInt32) : List UInt8 :=
  [w.toUInt8, (w >>> 8).toUInt8, (w >>> 16).toUInt8, (w >>> 24).toUInt8]

def hash (bytes : List UInt8) : List UInt8 := (tree root 0 bytes).toList.flatMap wordBytes

def hexByte (b : UInt8) : List Char :=
  [Nat.digitChar (b.toNat / 16), Nat.digitChar (b.toNat % 16)]

def hexOfText (text : String) : String :=
  String.ofList ((hash text.toUTF8.toList).flatMap hexByte)

end WidgetPipeline.Digest.Blake3
