import RemoteStub.Target

/-!
# Documents

Objects that a target serves page by page.
-/

namespace RemoteStub

/-- An object with its annex and its content. -/
structure Document where
  object : Text
  annex : Text
  data : Bytes
  deriving DecidableEq, Repr

namespace Document

/-- The part of the content from `offset` on, of at most `length` bytes. -/
def page (d : Document) (offset length : Nat) : Chunk :=
  let start := min offset d.data.length
  let stop := min (start + length) d.data.length
  { data := (d.data.drop start).take (stop - start), more := stop < d.data.length }

/-- The first document with this object and annex. -/
def find? (docs : List Document) (object annex : Text) : Option Document :=
  List.find? (fun d => d.object = object ∧ d.annex = annex) docs

def serve {σ : Type} (docs : List Document) (object annex : Text) (offset length : UInt64) :
    StateM σ (Option Chunk) :=
  pure ((find? docs object annex).map fun d => d.page offset.toNat length.toNat)

end Document

end RemoteStub
