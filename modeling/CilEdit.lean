import CilEdit.Cursor.Log
import CilEdit.EditError
import CilEdit.Matcher.Catalog
import CilEdit.Opcode.Lookup
import CilEdit.Patch.Set
import CilEdit.Session.Script
import CilEdit.Typing.Query
import CilEdit.Typing.Recursion
import CilEdit.Proofs.Stack.Execution
import CilEdit.Proofs.Stack.Balanced
import CilEdit.Proofs.Typing.Forward
import CilEdit.Proofs.Typing.Splice
import CilEdit.Proofs.Instruction.Encoding
import CilEdit.Proofs.Instruction.Recoding
import CilEdit.Proofs.Rebase.Rename
import CilEdit.Proofs.Rebase.Run
import CilEdit.Proofs.Rebase.Numbering
import CilEdit.Proofs.Rebase.Pools
import CilEdit.Proofs.Rebase.Fresh
import CilEdit.Proofs.Rebase.Injective
import CilEdit.Proofs.Rebase.Requests
import CilEdit.Proofs.Rebase.Failure
import CilEdit.Proofs.Rebase.Types
import CilEdit.Proofs.Cursor.Attached
import CilEdit.Proofs.Cursor.Jumps
import CilEdit.Proofs.Cursor.Splice
import CilEdit.Proofs.Cursor.Markers
import CilEdit.Proofs.Cursor.Removal
import CilEdit.Proofs.Cursor.Places
import CilEdit.Proofs.Window.Search
import CilEdit.Proofs.Typing.Indices
import CilEdit.Proofs.Cursor.Edits
import CilEdit.Proofs.Rebase.Splice
import CilEdit.Proofs.Session.Step
import CilEdit.Proofs.Session.History
import CilEdit.Proofs.Rebase.Donors
import CilEdit.Proofs.Rebase.Declare
import CilEdit.Proofs.Rebase.Canonical
import CilEdit.Proofs.Stack.Map
import CilEdit.Proofs.Rebase.Answers
import CilEdit.Proofs.Patch.Policy
import CilEdit.Proofs.Cursor.Range
import CilEdit.Proofs.Session.Lifecycle
import CilEdit.Proofs.Patch.Anchor
import CilEdit.Proofs.Unmarked.Answers
import CilEdit.Proofs.Unmarked.Cursor
import CilEdit.Proofs.Unmarked.Session
import CilEdit.Proofs.Typing.Pending
import CilEdit.Proofs.Typing.Backward
import CilEdit.Proofs.Cursor.Insertion
import CilEdit.Proofs.Stack.Depth
import CilEdit.Proofs.Typing.Producers
import CilEdit.Proofs.Window.Transport
import CilEdit.Proofs.Matcher.Recording
import CilEdit.Proofs.Window.Greedy
import CilEdit.Proofs.Cursor.Sweep
