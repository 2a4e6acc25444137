import Stencil.Bundled.Json
import Stencil.Bundled.Naming.Inflection
import Stencil.Bundled.Naming.Words
import Stencil.Bundled.Template.Engine
import Stencil.Bundled.Toml.Reader
import Stencil.Bundled.Wire.Decode
import Stencil.Bundled.Wire.Encode

/-!
# Stencil.Bundled

A toolkit that the program can be run with.

It stands in for libraries that do more: it knows a part of the template language, reads the
declared parts of descriptors without looking into the others, and says less about what is wrong. So
what is proved about the program is proved for any toolkit, and this one serves fixed inputs that are
within its reach.
-/

namespace Stencil

namespace Bundled

def wording : Wording where
  inCase
    | .pascal => Naming.pascalCase
    | .camel => Naming.lowerCamelCase
    | .snake => Naming.snakeCase
    | .kebab => Naming.kebabCase
  counted word count inclusive :=
    (if count = 1 then Naming.singular? word else Naming.plural? word).map fun form =>
      if inclusive then s!"{count} {form}" else form

def codec : Codec where
  request bytes := (Wire.request bytes).mapError Wire.DecodeError.message
  descriptorSet bytes := (Wire.descriptorSet bytes).mapError Wire.DecodeError.message
  response r := ⟨(Wire.putResponse r).toArray⟩

end Bundled

def Toolkit.bundled : Toolkit where
  engine := Bundled.Template.engine
  wording := Bundled.wording
  toml := Bundled.Toml.reader
  codec := Bundled.codec
  pretty := Bundled.Json.json 0

end Stencil
