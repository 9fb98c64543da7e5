import LogBrowser.Number.Decimal

/-!
# TOML values and documents

A document is a tree of tables. Each table lists its entries in the order they were made; an
entry holds a value, a table, or an array of tables. Tables carry two marks that decide which
later definitions are allowed: `implicit` (made only as the parent of something defined later)
and `dotted` (made by a dotted key). Inline tables are values and cannot be extended.

Floats keep the three kinds a TOML float can be: finite, infinite with a sign, and not a number.
-/

namespace LogBrowser.Toml

open LogBrowser.Number

/-- A TOML float. -/
inductive FloatValue where
  | finite (x : Binary64)
  | infinite (negative : Bool)
  | nan
  deriving Inhabited

/-- A TOML value. -/
inductive Value where
  | string (s : String)
  | integer (n : Int)
  | float (x : FloatValue)
  | boolean (b : Bool)
  | datetime (text : String)
  | array (items : List Value)
  | inline (dotted : Bool) (entries : List (String × Value))
  deriving Inhabited

/-- An entry of a table: a value, a table, or an array of tables. -/
inductive Item where
  | value (v : Value)
  | table (implicit dotted : Bool) (entries : List (String × Item))
  | tables (list : List (List (String × Item)))
  deriving Inhabited

/-- The entries of a table. -/
abbrev Entries := List (String × Item)

/-- The name of the kind of a value, as messages use it. -/
def Value.typeName : Value → String
  | .string _ => "string"
  | .integer _ => "integer"
  | .float _ => "float"
  | .boolean _ => "boolean"
  | .datetime _ => "datetime"
  | .array _ => "array"
  | .inline _ _ => "inline table"

/-- The name of the kind of an entry, as messages use it. -/
def Item.typeName : Item → String
  | .value v => v.typeName
  | .table _ _ _ => "table"
  | .tables _ => "array of tables"

/-- The entry of a key, if the table has one. -/
def lookup (k : String) : List (String × α) → Option α
  | [] => none
  | (k', v) :: rest => if k = k' then some v else lookup k rest

/-- The table without the entry of a key. -/
def removeKey (k : String) (es : List (String × α)) : List (String × α) :=
  es.filter fun e => e.1 != k

/-- The table with the entry of a key replaced in place. -/
def replaceKey (k : String) (v : α) : List (String × α) → List (String × α)
  | [] => []
  | (k', v') :: rest => if k = k' then (k, v) :: rest else (k', v') :: replaceKey k v rest

theorem lookup_removeKey (k : String) (es : List (String × α)) : lookup k (removeKey k es) = none := by
  induction es with
  | nil => rfl
  | cons e rest ih =>
    obtain ⟨k', v'⟩ := e
    by_cases h : k' = k
    · subst h
      simpa [removeKey] using ih
    · have hne : (k' != k) = true := by simpa using h
      simp only [removeKey, List.filter_cons, hne, if_true] at ih ⊢
      simp only [lookup]
      rw [if_neg (Ne.symm h)]
      exact ih

end LogBrowser.Toml
