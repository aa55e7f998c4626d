import Batchwise.Main
import Batchwise.Pass.Reader
import Batchwise.Proofs.Element.Grammar
import Batchwise.Proofs.Element.Reading
import Batchwise.Proofs.Element.Tokenization
import Batchwise.Proofs.Element.PlainText
import Batchwise.Proofs.Element.Quoting
import Batchwise.Proofs.Variable.Expansion
import Batchwise.Proofs.Pass.Step
import Batchwise.Proofs.Pass.Part
import Batchwise.Proofs.Pass.Assembly
import Batchwise.Proofs.Pass.LineStart
import Batchwise.Proofs.Run.Interleaving
import Batchwise.Proofs.Run.Preview
import Batchwise.Proofs.Pass.Independence
import Batchwise.Proofs.Element.Concatenation
import Batchwise.Proofs.Pass.Concatenation
import Batchwise.Proofs.Variable.Bindings
import Batchwise.Proofs.Variable.Precedence
import Batchwise.Proofs.Run.Trace
import Batchwise.Proofs.Run.Journal
import Batchwise.Proofs.Run.Cancellation
import Batchwise.Proofs.Element.Unterminated
import Batchwise.Proofs.Pass.Construct
import Batchwise.Proofs.Pass.Acceptance
import Batchwise.Proofs.Pass.Resumption
import Batchwise.Proofs.Pass.Policy
import Batchwise.Proofs.Run.Ending
import Batchwise.Proofs.Pass.Dialect
import Batchwise.Proofs.Pass.Assignment
import Batchwise.Proofs.Run.Repetition
import Batchwise.Proofs.Pass.Opacity
import Batchwise.Proofs.Pass.Agreement
import Batchwise.Proofs.Variable.Decomposition
import Batchwise.Proofs.Pass.AssignedValue
import Batchwise.Proofs.Pass.Session
import Batchwise.Proofs.Memory.Changes
import Batchwise.Proofs.Run.Affected
import Batchwise.Proofs.Element.Exhaustion
import Batchwise.Proofs.Pass.RepeatCount
import Batchwise.Proofs.Variable.Itemization
import Batchwise.Proofs.Variable.History
import Batchwise.Proofs.Variable.Idempotence
import Batchwise.Proofs.Run.Partition
import Batchwise.Proofs.Element.Tape
import Batchwise.Proofs.Pass.OpenBatch
import Batchwise.Proofs.Console.Lines
import Batchwise.Proofs.Console.Verbosity
import Batchwise.Proofs.Console.Alignment
