import ListScript.Capture
import ListScript.Description
import ListScript.Main
import ListScript.Proofs.Operation
import ListScript.Proofs.RunRelation
import ListScript.Proofs.DepthLimit
import ListScript.Proofs.Journal
import ListScript.Proofs.ImportOnce
import ListScript.Proofs.Frames
import ListScript.Proofs.Captures
import ListScript.Proofs.Discipline
import ListScript.Proofs.Framing
import ListScript.Proofs.Region
import ListScript.Proofs.Grounded
import ListScript.Proofs.Scanning
import ListScript.Proofs.Nesting
import ListScript.Proofs.Drafting
import ListScript.Proofs.Batch
import ListScript.Proofs.Completion
import ListScript.Proofs.Fragments
import ListScript.Proofs.Plan
import ListScript.Proofs.Trace
import ListScript.Proofs.Termination
import ListScript.Proofs.ErrorPassing
import ListScript.Proofs.FormTree
import ListScript.Proofs.Reach
import ListScript.Proofs.Contract
import ListScript.Proofs.Unused
import ListScript.Proofs.History
import ListScript.Proofs.Isolation
import ListScript.Proofs.Spelling
import ListScript.Proofs.Writing
import ListScript.Proofs.Idle
import ListScript.Proofs.Reporting
import ListScript.Proofs.Observance
import ListScript.Proofs.NumberTags
import ListScript.Proofs.Operands
import ListScript.Proofs.ExactArithmetic
import ListScript.Proofs.Scripts
import ListScript.Proofs.IncludeDirs
import ListScript.Proofs.Comparisons
import ListScript.Proofs.Promotion
import ListScript.Proofs.Literals
import ListScript.Proofs.Conversation
import ListScript.Proofs.Program
import ListScript.Proofs.Lookups
import ListScript.Proofs.Rebinding
import ListScript.Proofs.Rendering
import ListScript.Proofs.Lists
import ListScript.Proofs.Sections
import ListScript.Proofs.Sequence
import ListScript.Proofs.Comments
import ListScript.Proofs.Annotation
