import LogBrowser.Number.Decimal

/-!
# JSON values

A JSON value as a log body holds it. Numbers keep the kind they were read as: a natural number
that fits 64 bits, a negative integer that fits 64 signed bits, or a binary64 value for every
other number. Objects keep their members sorted by key, one member per key; a later member of the
same key replaces an earlier one.
-/

namespace LogBrowser.JsonText

open LogBrowser.Number

/-- A JSON value. -/
inductive Value where
  | null
  | bool (b : Bool)
  | unsigned (n : Nat)
  | signed (n : Int)
  | float (x : Binary64)
  | string (s : String)
  | array (items : List Value)
  | object (members : List (String × Value))
  deriving Inhabited

/-- Puts a member into a key-sorted member list, replacing a member of the same key. -/
def insertMember (k : String) (v : Value) : List (String × Value) → List (String × Value)
  | [] => [(k, v)]
  | (k', v') :: rest =>
    if k < k' then (k, v) :: (k', v') :: rest
    else if k = k' then (k, v) :: rest
    else (k', v') :: insertMember k v rest

theorem insertMember_ne_nil (k : String) (v : Value) (ms : List (String × Value)) :
    insertMember k v ms ≠ [] := by
  cases ms with
  | nil => simp [insertMember]
  | cons m rest =>
    obtain ⟨k', v'⟩ := m
    simp only [insertMember]
    split
    · simp
    · split <;> simp

end LogBrowser.JsonText
