import PromqlEditor.Decimal.Shortest
import PromqlEditor.Decimal.Word
import PromqlEditor.Text.Quoted

/-!
# JSON values

The values that settings are read from. Whole numbers are kept apart from the others, and the
members of an object are kept in the order of their keys, each key once (`Value.Ordered`);
`Value.ofMembers` brings members into that form.
-/

namespace PromqlEditor.Json

/-- A JSON value. -/
inductive Value where
  | null
  | boolean (b : Bool)
  /-- A number written without fraction and exponent that fits into 64 bits. -/
  | integer (n : Int)
  /-- Any other number. -/
  | real (x : Float)
  | text (s : String)
  | list (items : List Value)
  | object (members : List (String × Value))
  deriving Inhabited

namespace Value

/-! ## Objects -/

/-- Members with one more at the place of its key, where it replaces what is there. -/
def insertMember (key : String) (value : Value) : List (String × Value) → List (String × Value)
  | [] => [(key, value)]
  | (k, v) :: rest =>
    if key < k then (key, value) :: (k, v) :: rest
    else if key = k then (key, value) :: rest
    else (k, v) :: insertMember key value rest

/-- The object with the given members, of which the last one with a key counts. -/
def ofMembers (members : List (String × Value)) : Value :=
  .object (members.foldl (fun ms m => insertMember m.1 m.2 ms) [])

mutual
/-- Whether every object in a value has its keys in increasing order. -/
def Ordered : Value → Prop
  | .list items => AllOrdered items
  | .object members => (members.map Prod.fst).Pairwise (· < ·) ∧ MembersOrdered members
  | _ => True

/-- Whether all items of a list are ordered. -/
def AllOrdered : List Value → Prop
  | [] => True
  | v :: vs => Ordered v ∧ AllOrdered vs

/-- Whether the values of all members are ordered. -/
def MembersOrdered : List (String × Value) → Prop
  | [] => True
  | (_, v) :: ms => Ordered v ∧ MembersOrdered ms
end

theorem allOrdered_iff {items : List Value} : AllOrdered items ↔ ∀ v ∈ items, v.Ordered := by
  induction items with
  | nil => simp [AllOrdered]
  | cons v vs ih => simp [AllOrdered, ih]

theorem membersOrdered_iff {members : List (String × Value)} :
    MembersOrdered members ↔ ∀ m ∈ members, m.2.Ordered := by
  induction members with
  | nil => simp [MembersOrdered]
  | cons m ms ih => simp [MembersOrdered, ih]

/-! ## Number text -/

/-- The text of a number that is not whole or not within 64 bits: the fewest digits that read back,
positional if the first digit stands for 10⁻⁵ up to 10¹⁵ and with an exponent otherwise. -/
def realText (x : Float) : String :=
  let sign := if x.toBits.toNat < wordBound / 2 then "" else "-"
  let d := (Binary.ofBits x.toBits).shortest
  let digits := (Nat.repr d.digits).toList
  let zeros (n : Nat) := List.replicate n '0'
  let top : Int := d.exponent + digits.length - 1
  let body : List Char :=
    if d.digits = 0 then ['0', '.', '0']
    else if -5 ≤ top ∧ top < 0 then '0' :: '.' :: zeros (-top - 1).toNat ++ digits
    else if 0 ≤ top ∧ top ≤ 15 then
      let whole := top.toNat + 1
      let fraction := digits.drop whole
      digits.take whole ++ zeros (whole - digits.length) ++ '.' ::
        (if fraction.isEmpty then ['0'] else fraction)
    else
      let fraction := digits.drop 1
      digits.take 1 ++ (if fraction.isEmpty then [] else '.' :: fraction) ++
        'e' :: (if top < 0 then '-' else '+') :: (Nat.repr top.natAbs).toList
  sign ++ String.ofList body

/-! ## Kinds -/

/-- What kind of value something is; of the simple values also which one. -/
inductive Kind where
  | null
  | boolean (b : Bool)
  | integer (n : Int)
  | real (x : Float)
  | text (s : String)
  | list
  | object

/-- The kind of a value. -/
def kind : Value → Kind
  | .null => .null
  | .boolean b => .boolean b
  | .integer n => .integer n
  | .real x => .real x
  | .text s => .text s
  | .list _ => .list
  | .object _ => .object

/-- How a message names a kind. -/
def Kind.description : Kind → String
  | .null => "null"
  | .boolean b => "boolean `" ++ toString b ++ "`"
  | .integer n => "integer `" ++ toString n ++ "`"
  | .real x => "floating point `" ++ realText x ++ "`"
  | .text s => "string " ++ Text.quoted s
  | .list => "sequence"
  | .object => "map"

end Value

end PromqlEditor.Json
