import PassForge.Sorted

/-!
# Identities of resources

Every resource has an id that never changes. Ids are minted one after the other, starting with 1.
-/

namespace PassForge

/-- The identity of a resource. -/
structure ResourceId where
  value : Nat
  deriving DecidableEq, Inhabited

namespace ResourceId

instance : LT ResourceId := ⟨fun a b => a.value < b.value⟩

instance : DecidableLT ResourceId := fun a b => inferInstanceAs (Decidable (a.value < b.value))

instance : AscendingKey ResourceId where
  lt_trans := Nat.lt_trans
  lt_of_not_lt hne hlt :=
    Nat.lt_of_le_of_ne (Nat.le_of_not_lt hlt) fun h => hne (congrArg mk h.symm)

/-- An id as it stands in messages. -/
instance : ToString ResourceId := ⟨fun id => "#" ++ toString id.value⟩

/-- An id as it stands in shown values. -/
def text (id : ResourceId) : String := "ResourceId(" ++ toString id.value ++ ")"

end ResourceId

end PassForge
