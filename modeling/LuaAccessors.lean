import LuaAccessors.Text.LetterCase
import LuaAccessors.Lexis.Mask
import LuaAccessors.Lexis.Quoted
import LuaAccessors.Lexis.Scan
import LuaAccessors.Extraction
import LuaAccessors.Diagnostic.Log
import LuaAccessors.Cpp.Header
import LuaAccessors.Settings
import LuaAccessors.Lua.Chunk
import LuaAccessors.Batch
import LuaAccessors.Text.Utf8
import LuaAccessors.Files.Discovery
import LuaAccessors.CommandLine.Options
import LuaAccessors.CommandLine.Run
import LuaAccessors.Main
import LuaAccessors.Proofs.Lexis.LineBreak
import LuaAccessors.Proofs.Lexis.LongBracket
import LuaAccessors.Proofs.Lexis.Agreement
import LuaAccessors.Proofs.Extraction.Seam
import LuaAccessors.Proofs.Lexis.Standalone
import LuaAccessors.Proofs.TableLiteral.Printed
import LuaAccessors.Proofs.TableLiteral.Laid
import LuaAccessors.Proofs.TableLiteral.Fields
import LuaAccessors.Proofs.TableLiteral.Keys
import LuaAccessors.Proofs.Extraction.RoundTrip
import LuaAccessors.Proofs.Extraction.Step
import LuaAccessors.Proofs.Annotations
import LuaAccessors.Proofs.Extraction.Delivery
import LuaAccessors.Proofs.Extraction.Provenance
import LuaAccessors.Proofs.Cpp.Claim
import LuaAccessors.Proofs.Cpp.Classes
import LuaAccessors.Proofs.Cpp.Reading
import LuaAccessors.Proofs.Cpp.PublicNames
import LuaAccessors.Proofs.Batch.Skipped
import LuaAccessors.Proofs.Batch.Outcome
import LuaAccessors.Proofs.Text.Cut
import LuaAccessors.Proofs.Extraction.Names
import LuaAccessors.Proofs.Cpp.Name
import LuaAccessors.Proofs.Cpp.PrivateNames
import LuaAccessors.Proofs.Cpp.Parameters
import LuaAccessors.Proofs.Text.LetterCase
import LuaAccessors.Proofs.Files.Path
import LuaAccessors.Proofs.Files.Tree
import LuaAccessors.Proofs.CommandLine.Headers
import LuaAccessors.Proofs.Extraction.Layout
import LuaAccessors.Proofs.Extraction.WellFormed
import LuaAccessors.Proofs.Cpp.Braces
import LuaAccessors.Proofs.Cpp.Nesting
import LuaAccessors.Proofs.Lexis.Spaced
import LuaAccessors.Proofs.Declaration.Spaced
import LuaAccessors.Proofs.Lexis.SpacedMask
import LuaAccessors.Proofs.TableLiteral.Spaced
import LuaAccessors.Proofs.Lexis.BlockComment
import LuaAccessors.Proofs.Lexis.SpacedScan
import LuaAccessors.Proofs.Extraction.Spacing
import LuaAccessors.Proofs.Text.Dictionary
import LuaAccessors.Proofs.Cpp.Shadowing
import LuaAccessors.Proofs.Files.Directories
import LuaAccessors.Proofs.Files.Discovery
import LuaAccessors.Proofs.CommandLine.Status
import LuaAccessors.Proofs.TableLiteral.Matching
import LuaAccessors.Proofs.TableLiteral.Signs
import LuaAccessors.Proofs.TableLiteral.Joined
import LuaAccessors.Proofs.Extraction.TrailingComment
import LuaAccessors.Proofs.Settings
import LuaAccessors.Proofs.CommandLine.Incremental
import LuaAccessors.Proofs.Files.Containment
import LuaAccessors.Proofs.Batch.TypeNames
import LuaAccessors.Proofs.Declaration.Shapes
import LuaAccessors.Proofs.Files.Collected
import LuaAccessors.Proofs.Annotations.Merge
import LuaAccessors.Proofs.Lexis.Remask
import LuaAccessors.Proofs.TableLiteral.Cuts
import LuaAccessors.Proofs.TableLiteral.Levels
import LuaAccessors.Proofs.Lexis.Jumps
import LuaAccessors.Proofs.Lexis.JumpReading
import LuaAccessors.Proofs.Cpp.Sanitized
