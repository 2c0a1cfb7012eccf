import ScriptLexer.CommandLine
import ScriptLexer.Main
import ScriptLexer.Proofs.CommandLine.DumpLines
import ScriptLexer.Proofs.Comment.Automaton
import ScriptLexer.Proofs.Comment.Counted
import ScriptLexer.Proofs.Lexeme.LongestMatch
import ScriptLexer.Proofs.Lexeme.MaximalNumber
import ScriptLexer.Proofs.Lexeme.Word
import ScriptLexer.Proofs.Literal.FirstFault
import ScriptLexer.Proofs.Literal.RoundTrip
import ScriptLexer.Proofs.Session.ByteOrderMark
import ScriptLexer.Proofs.Session.Caseless
import ScriptLexer.Proofs.Session.Concatenation
import ScriptLexer.Proofs.Session.Conservation
import ScriptLexer.Proofs.Session.Directives
import ScriptLexer.Proofs.Session.Emission
import ScriptLexer.Proofs.Session.ErrorLine
import ScriptLexer.Proofs.Session.Fault
import ScriptLexer.Proofs.Session.Guarded
import ScriptLexer.Proofs.Session.Numbering
import ScriptLexer.Proofs.Session.Ownership
import ScriptLexer.Proofs.Session.Respacing
import ScriptLexer.Proofs.Session.Shape
import ScriptLexer.Proofs.Session.SingleName
import ScriptLexer.Proofs.Table.Registry
import ScriptLexer.Proofs.Table.Validation
import ScriptLexer.Session.Call
import ScriptLexer.Table.Registry
