/-!
Base64: three bytes as four characters, with equals signs for the characters that a shorter last
group lacks.
-/

namespace VirtualTables.Text.Base64

def digit (value : Nat) : Char :=
  Char.ofNat (
    if value < 26 then 65 + value
    else if value < 52 then 97 + (value - 26)
    else if value < 62 then 48 + (value - 52)
    else if value = 62 then 43
    else 47)

def encode : List UInt8 → List Char
  | [] => []
  | [first] =>
      let bits := first.toNat * 16
      [digit (bits / 64), digit (bits % 64), '=', '=']
  | [first, second] =>
      let bits := (first.toNat * 256 + second.toNat) * 4
      [digit (bits / 4096), digit (bits / 64 % 64), digit (bits % 64), '=']
  | first :: second :: third :: rest =>
      let bits := (first.toNat * 256 + second.toNat) * 256 + third.toNat
      digit (bits / 262144) :: digit (bits / 4096 % 64) :: digit (bits / 64 % 64) ::
        digit (bits % 64) :: encode rest

end VirtualTables.Text.Base64
