import WidgetPipeline.Main
import WidgetPipeline.Report.Decode
import WidgetPipeline.Proofs.Script.Rendering
import WidgetPipeline.Proofs.Script.Continuation
import WidgetPipeline.Proofs.Script.Unclosed
import WidgetPipeline.Proofs.Script.LineEnding
import WidgetPipeline.Proofs.Script.Progress
import WidgetPipeline.Proofs.Extraction.Again
import WidgetPipeline.Proofs.Extraction.TrailingBreaks
import WidgetPipeline.Proofs.Reference.Splitting
import WidgetPipeline.Proofs.Reference.Resolution
import WidgetPipeline.Proofs.Pipeline.Stages
import WidgetPipeline.Proofs.Pipeline.Trace
import WidgetPipeline.Proofs.Directive.Grammar
import WidgetPipeline.Proofs.Pipeline.Failures
import WidgetPipeline.Proofs.Pipeline.Skip
import WidgetPipeline.Proofs.Pipeline.FormatCheck
import WidgetPipeline.Proofs.Extraction.AnyComments
import WidgetPipeline.Proofs.Report.RoundTrip
import WidgetPipeline.Proofs.Cli.Exit
import WidgetPipeline.Proofs.Directive.Value
import WidgetPipeline.Proofs.Extraction.Header
import WidgetPipeline.Proofs.Extraction.Literal
import WidgetPipeline.Proofs.Reference.Again
import WidgetPipeline.Proofs.Reference.Misses
import WidgetPipeline.Proofs.Reference.Append
import WidgetPipeline.Proofs.Reference.Configuration
import WidgetPipeline.Proofs.Reference.Extension
import WidgetPipeline.Proofs.Reference.Account
import WidgetPipeline.Proofs.Export.Warning
import WidgetPipeline.Proofs.Export.Identifier
import WidgetPipeline.Proofs.External.Options
