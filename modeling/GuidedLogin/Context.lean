/-
The values that the hooks of one workflow share, by key. A read at the wrong
type is an error that names both types.
-/
import GuidedLogin.Node

namespace GuidedLogin

def TypedMap.Mismatch.cause {κ : Type} (name : κ → String) (fault : Mismatch κ) : Error :=
  .typeMismatch fault.key (name fault.expected) (name fault.actual)

abbrev Context (Act : Type) : Type := TypedMap (Kind.Value Act)

namespace Context

variable {Act : Type}

def mismatch (fault : TypedMap.Mismatch Kind) : Error := fault.cause Kind.name

def set (context : Context Act) (key : String) (kind : Kind) (value : kind.Value Act) :
    Context Act :=
  TypedMap.set context key kind value

def get (context : Context Act) (key : String) (kind : Kind) :
    Except Error (Option (kind.Value Act)) :=
  (TypedMap.get context key kind).mapError mismatch

def getOr (context : Context Act) (key : String) (kind : Kind) (default : kind.Value Act) :
    Except Error (kind.Value Act) :=
  (TypedMap.getOr context key kind default).mapError mismatch

def update (context : Context Act) (key : String) (kind : Kind)
    (change : Option (kind.Value Act) → kind.Value Act) :
    Except Error (kind.Value Act × Context Act) :=
  (TypedMap.update context key kind change).mapError mismatch

end Context

end GuidedLogin
