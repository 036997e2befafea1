/-!
# Hexadecimal numbers

* `Hex.value`, `Hex.number`       the value of a digit, and of the digits of a number;
* `Hex.bytes`                     the bytes of a text, two digits for each;
* `Hex.ofBytes`                   the digits of bytes, the inverse of `Hex.bytes`;
* `Hex.padded`                    a number with at least a given count of digits.

Letters are small.
-/

namespace FireflyOverlay
namespace Hex

def value (c : Char) : Nat :=
  if c.isDigit then c.toNat - '0'.toNat else c.toNat - 'a'.toNat + 10

def number (digits : List Char) : Nat := digits.foldl (fun n c => 16 * n + value c) 0

/-- A single digit at the end is left out. -/
def bytes : List Char → List UInt8
  | a :: b :: rest => (16 * value a + value b).toUInt8 :: bytes rest
  | _ => []

def ofByte (b : UInt8) : List Char :=
  [Nat.digitChar (b.toNat / 16), Nat.digitChar (b.toNat % 16)]

def ofBytes (l : List UInt8) : String := String.ofList (l.flatMap ofByte)

def padded (digits n : Nat) : String :=
  let text := Nat.toDigits 16 n
  String.ofList (List.replicate (digits - text.length) '0' ++ text)

theorem value_digitChar : ∀ n : Fin 16, value (Nat.digitChar n) = n := by decide

theorem bytes_ofByte (b : UInt8) (rest : List Char) :
    bytes (ofByte b ++ rest) = b :: bytes rest := by
  have hb : b.toNat < 256 := b.toNat_lt
  have hi := value_digitChar ⟨b.toNat / 16, by omega⟩
  have lo := value_digitChar ⟨b.toNat % 16, by omega⟩
  have h : 16 * (b.toNat / 16) + b.toNat % 16 = b.toNat := Nat.div_add_mod b.toNat 16
  show (16 * value (Nat.digitChar (b.toNat / 16)) + value (Nat.digitChar (b.toNat % 16))).toUInt8
    :: bytes rest = _
  rw [hi, lo]
  show (16 * (b.toNat / 16) + b.toNat % 16).toUInt8 :: bytes rest = _
  rw [h, Nat.toUInt8, UInt8.ofNat_toNat]

theorem bytes_ofBytes (l : List UInt8) : bytes (l.flatMap ofByte) = l := by
  induction l with
  | nil => rfl
  | cons b l ih => rw [List.flatMap_cons, bytes_ofByte, ih]

end Hex
end FireflyOverlay
