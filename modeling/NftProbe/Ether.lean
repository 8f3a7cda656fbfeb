import NftProbe.Defaults
import NftProbe.Word

/-!
# Ether amounts

Balances are shown in ether with six decimals, truncated: the whole ether, a point, and the
millionths of an ether padded to six digits.
-/

set_option autoImplicit false

namespace NftProbe

/-- The digits of `n`, padded with zeros on the left to at least `width`. -/
def padDecimal (width n : Nat) : String :=
  let digits := toString n
  String.ofList (List.replicate (width - digits.length) '0') ++ digits

/-- An amount in wei as ether with six decimals, truncated. -/
def formatEther (wei : Word) : String :=
  toString (wei.toNat / weiPerEther) ++ "." ++
    padDecimal 6 (wei.toNat % weiPerEther / 1000000000000)

end NftProbe
