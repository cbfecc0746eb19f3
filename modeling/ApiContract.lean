import ApiContract.Main
import ApiContract.Outline.Record
import ApiContract.Proofs.Audit.AnyOrder
import ApiContract.Proofs.Audit.AtFault
import ApiContract.Proofs.Audit.Clean
import ApiContract.Proofs.Audit.Header
import ApiContract.Proofs.Audit.Isolation
import ApiContract.Proofs.Audit.Mirrored
import ApiContract.Proofs.Audit.Repeats
import ApiContract.Proofs.Audit.ShownTexts
import ApiContract.Proofs.Audit.SingleEdit
import ApiContract.Proofs.Code.BlockStructure
import ApiContract.Proofs.Code.Casts
import ApiContract.Proofs.Code.Comments
import ApiContract.Proofs.Code.Config.Kinds
import ApiContract.Proofs.Code.Config.ReadBack
import ApiContract.Proofs.Code.FirstCharacters
import ApiContract.Proofs.Code.MixedChains
import ApiContract.Proofs.Code.MovedLiterals
import ApiContract.Proofs.Code.StringLiteral
import ApiContract.Proofs.Code.TemplateParts
import ApiContract.Proofs.Code.TypeReading
import ApiContract.Proofs.Command.GenerateAudit
import ApiContract.Proofs.Emit.Address
import ApiContract.Proofs.Emit.ClientScope
import ApiContract.Proofs.Emit.Failures
import ApiContract.Proofs.Emit.Imports
import ApiContract.Proofs.Emit.ListTypes
import ApiContract.Proofs.Emit.Output
import ApiContract.Proofs.Emit.PropertyNames
import ApiContract.Proofs.Emit.ReadBack
import ApiContract.Proofs.Emit.TypeNames
import ApiContract.Proofs.Emit.UsableNames
import ApiContract.Proofs.Emit.WholeFiles
import ApiContract.Proofs.Emit.Write
import ApiContract.Proofs.Files.Growth
import ApiContract.Proofs.Files.Walk
import ApiContract.Proofs.Files.Writing
import ApiContract.Proofs.Outline.Spelling
import ApiContract.Proofs.Project.NearestRoot
import ApiContract.Proofs.Project.Sources
import ApiContract.Proofs.Project.WholeLoad
import ApiContract.Proofs.Schema.Accepted
import ApiContract.Proofs.Schema.Path
