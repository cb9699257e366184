/-
Catalogs of modules: the stock modules, and those that an application adds.
-/
import GuidedLogin.Stock.Cookie
import GuidedLogin.Stock.CustomHeader
import GuidedLogin.Stock.Endpoint
import GuidedLogin.Stock.JsonTransform

namespace GuidedLogin

inductive CatalogKey (ι : Type) where
  | endpoint
  | customHeader
  | cookie
  | jsonTransform
  | added (id : ι)
  deriving DecidableEq, Repr

namespace CatalogKey

variable {ι : Type} {Own : ι → Type} {Act Ω : Type}

abbrev Config (Own : ι → Type) (Act Ω : Type) : CatalogKey ι → Type
  | .endpoint => EndpointConfig
  | .customHeader => CustomHeaderConfig
  | .cookie => CookieConfig Ω
  | .jsonTransform => JsonTransformConfig Act Ω
  | .added id => Own id

def module (own : (id : ι) → Module (Own id) Act Ω) :
    (key : CatalogKey ι) → Module (key.Config Own Act Ω) Act Ω
  | .endpoint => Module.endpoint
  | .customHeader => Module.customHeader
  | .cookie => Module.cookie
  | .jsonTransform => Module.jsonTransform
  | .added id => own id

end CatalogKey

end GuidedLogin
