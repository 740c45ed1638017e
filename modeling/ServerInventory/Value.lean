import ServerInventory.Text.Quoted

/-!
Scalar attribute values. What counts as an empty value decides later whether a collected
value may take the place of a known one: unsigned words and flags always count as empty,
so they never protect what is known.
-/

namespace ServerInventory

/-- The value of one attribute, tagged with its type. -/
inductive Value where
  | text (value : String)
  | int8 (value : Int8)
  | int32 (value : Int32)
  | int64 (value : Int64)
  | word64 (value : UInt64)
  | flag (value : Bool)
deriving DecidableEq, Repr

namespace Value

/-- The type of a value. -/
inductive Kind where
  | text
  | int8
  | int32
  | int64
  | word64
  | flag
deriving DecidableEq, Repr

/-- The name of a type in messages about what a value is. -/
def Kind.name : Kind → String
  | .text => "string"
  | .int8 => "i8"
  | .int32 => "i32"
  | .int64 => "i64"
  | .word64 => "u64"
  | .flag => "bool"

/-- The name of a type in messages about what an attribute takes. -/
def Kind.attributeName : Kind → String
  | .text => "String"
  | kind => kind.name

def kind : Value → Kind
  | .text _ => .text
  | .int8 _ => .int8
  | .int32 _ => .int32
  | .int64 _ => .int64
  | .word64 _ => .word64
  | .flag _ => .flag

/-- The value that an attribute of a type has before anything is known. -/
def blank : Kind → Value
  | .text => .text ""
  | .int8 => .int8 0
  | .int32 => .int32 0
  | .int64 => .int64 0
  | .word64 => .word64 0
  | .flag => .flag false

/-- Whether a value is absence of data. -/
def isEmpty : Value → Bool
  | .text value => value.isEmpty
  | .int8 value => value == 0
  | .int32 value => value == 0
  | .int64 value => value == 0
  | .word64 _ => true
  | .flag _ => true

/-- A value as a change shows it: texts quoted, numbers in decimal. -/
def describe : Value → String
  | .text value => Text.quote value
  | .int8 value => toString value.toInt
  | .int32 value => toString value.toInt
  | .int64 value => toString value.toInt
  | .word64 value => toString value.toNat
  | .flag value => if value then "true" else "false"

@[simp] theorem kind_blank (kind : Kind) : (blank kind).kind = kind := by
  cases kind <;> rfl

@[simp] theorem isEmpty_blank (kind : Kind) : (blank kind).isEmpty = true := by
  cases kind <;> rfl

end Value

end ServerInventory
