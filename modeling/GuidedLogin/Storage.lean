/-
Storages of texts under keys, which outlive a workflow. A storage is what can be
done with it; the one in memory is a map that never fails.
-/
import GuidedLogin.Proc

namespace GuidedLogin

structure Storage (σ : Type) where
  get : String → Proc σ (Option String)
  save : String → String → Proc σ Unit
  delete : String → Proc σ Unit

namespace Storage

def memory : Storage (NameMap String) where
  get key := .read fun content => .done (content.find? key)
  save key value := Proc.modify fun content => content.insert key value
  delete key := Proc.modify fun content => content.erase key

def on {τ σ : Type} (part : Part τ σ) (storage : Storage σ) : Storage τ where
  get key := (storage.get key).on part
  save key value := (storage.save key value).on part
  delete key := (storage.delete key).on part

end Storage

end GuidedLogin
