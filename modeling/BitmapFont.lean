import BitmapFont.Main
import BitmapFont.Proofs.AssemblyErrors
import BitmapFont.Proofs.CharsetNames
import BitmapFont.Proofs.CommandLine
import BitmapFont.Proofs.CompileErrors
import BitmapFont.Proofs.DefaultOutput
import BitmapFont.Proofs.DirectiveLines
import BitmapFont.Proofs.FileTexts
import BitmapFont.Proofs.GlyphRaster
import BitmapFont.Proofs.GlyphSource.Concatenation
import BitmapFont.Proofs.GlyphSource.Rebuilding
import BitmapFont.Proofs.Image.Canonical
import BitmapFont.Proofs.Image.Checks
import BitmapFont.Proofs.Image.Growth
import BitmapFont.Proofs.Image.SelfDelimiting
import BitmapFont.Proofs.LineEndings
import BitmapFont.Proofs.ProjectEdits
import BitmapFont.Proofs.Recompilation
import BitmapFont.Proofs.Reports
import BitmapFont.Proofs.Substitutions
