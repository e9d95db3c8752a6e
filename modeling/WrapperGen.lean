import WrapperGen.Importer
import WrapperGen.Main
import WrapperGen.Proofs.DirectiveOrder
import WrapperGen.Proofs.Imports.Output
import WrapperGen.Proofs.Wrapper.Marshalling
import WrapperGen.Proofs.Imports.RuntimeImport
import WrapperGen.Proofs.Wrapper.LocalNames
import WrapperGen.Proofs.Wrapper.FileNames
import WrapperGen.Proofs.Render.Validation
import WrapperGen.Proofs.Text.Encoding
import WrapperGen.Proofs.Wrapper.Conventions
import WrapperGen.Proofs.Literal.Escape
import WrapperGen.Proofs.Literal.Value
import WrapperGen.Proofs.ScannedTexts
import WrapperGen.Proofs.Wrapper.Lines
import WrapperGen.Proofs.Render.Lines
import WrapperGen.Proofs.Scan.Forms
import WrapperGen.Proofs.Render.RuntimePackage
import WrapperGen.Proofs.Scan.Regeneration
import WrapperGen.Proofs.Render.Characters
import WrapperGen.Proofs.CommandLine.Reporting
import WrapperGen.Proofs.Settings.Typing
import WrapperGen.Proofs.Render.Inert
import WrapperGen.Proofs.SynthesizedName.Decoding
import WrapperGen.Proofs.SynthesizedName.WordCharacters
import WrapperGen.Proofs.Imports.RequestOrder
import WrapperGen.Proofs.Imports.Rereading
import WrapperGen.Proofs.Scan.FeedLines
import WrapperGen.Proofs.Render.ExtendedOnly
import WrapperGen.Proofs.Signature.Refusal
import WrapperGen.Proofs.Wrapper.ExpectedType
import WrapperGen.Proofs.Registries
import WrapperGen.Proofs.Importer.Keys
import WrapperGen.Proofs.Text.Indent
