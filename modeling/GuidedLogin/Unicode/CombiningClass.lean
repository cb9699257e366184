/-
Canonical combining classes, by which marks behind a base character are ordered.
-/
import GuidedLogin.Unicode.Table

namespace GuidedLogin.Unicode

/-- Ranges of characters of one class, `C` with the class. -/
def combiningClasses : Table := Table.ofText "0C0 lcC6e lC6g 1C64 4C6g 1C60 1C64 5C5m 2C64 4C5m 2C64 bC1 5C64 4C6e 8C6o 1C6e 1C64 3C6e 3C64
2C0 1C6e 3C64 4C6e 1C6g 1C64 2C6e 1C6h 1C6i 2C6h 1C6i 2C6h 1C6e dC0 7nC6e 5C0 7dC64 1C6e 4C64
1C6e 3C66 1C64 1C6e 6C64 6C6e 2C64 1C6e 2C66 1C6c 1C6e 1Ca 1Cb 1Cc 1Cd 1Ce 1Cf 1Cg 1Ch 1Ci 1Cj
2Ck 1Cl 1Cm 1C0 1Cn 1C0 1Co 1Cp 1C0 1C6e 1C64 1C0 1Ci 1C0 20C6e 8Cu 1Cv 1Cw 1C0 1cCr 1Cs 1Ct 1Cu
1Cv 1Cw 1Cx 1Cy 1C6e 2C64 2C6e 5C64 1C6e 2C64 1C0 gCz 1C0 2tC6e 7C0 2C6e 4C64 1C6e 1C0 2C6e 2C0
1C64 1C6e 2C64 1C0 zC10 1C0 uC6e 1C64 1C6e 2C64 1C6e 2C64 3C6e 1C64 2C6e 1C64 1C6e 3C64 1C6e
1C64 1C6e 1C64 1C6e 1C64 1C6e 2C0 4gC6e 7C64 1C6e 1C0 9C64 1C0 oC6e 4C0 1C6e 9C0 1C6e 3C0 1C6e
5C0 17C64 3C0 1oC6e 1C64 3C6e 4C0 16C6e 5C64 5C6e eC0 1C64 1C6e 2C64 1C6e 2C64 1C6e 3C64 3Cr 1Cs
1Ct 1C6e 3C64 1C6e 2C64 2C6e 5C0 1oC7 1C0 gC9 1C0 3C6e 1C64 1C6e 2C0 2vC7 1C0 gC9 1C0 1cC6e 1C0
1pC7 1C0 gC9 1C0 32C7 1C0 gC9 1C0 32C7 1C0 gC9 1C0 3jC9 1C0 32C7 1C0 gC9 1C0 7C2c 1C2j 1C0 2tC7
1C0 gC9 1C0 31C9 2C0 gC9 1C0 3gC9 1C0 31C2v 2C9 1C0 dC2z 4C0 30C3a 2C9 1C0 dC3e 4C0 24C64 2C0
rC64 1C0 1C64 1C0 1C60 1C0 1jC3l 1C3m 1C0 1C3o 1C0 5C3m 4C0 2C3m 1C0 1C6e 2C9 1C0 1C6e 2C0 1qC64
1C0 34C7 1C0 1C9 2C0 2aC64 1C0 jzC6e 3C0 qcC9 2C0 uC9 1C0 4dC9 1C0 aC6e 1C0 5nC6c 1C0 3zC66 1C6e
1C64 1C0 63C6e 1C64 1C0 1zC9 1C0 kC6e 8C0 2C64 1C0 1cC6e 5C64 6C6e 2C64 1C0 1C64 2C6e 2C64 2C6e
5C64 1C6e 4C0 2tC7 1C0 fC9 1C0 12C6e 1C64 1C6e 7C0 1iC9 2C0 1mC7 1C0 bC9 2C0 1vC7 1C0 48C6e 3C0
1C1 1C64 5C6e 2C64 4C6e 1C0 1C1 7C0 4C64 1C0 6C6e 1C0 3C6e 2C0 5iC6e 2C64 1C6e 7C64 1C6e 2C6i
1C5y 1C64 1C5m 1C6e 11C6g 1C6c 2C64 1C62 1C6e 1C6h 1C64 1C6e 1C64 1C0 k0C6e 2C1 2C6e 4C1 3C6e
2C0 4C6e 1C0 3C1 2C6e 1C64 1C6e 1C1 2C64 4C6e 1C0 2daC6e 3C0 3xC9 1C0 2oC6e wC0 feC62 1C6c 1C6g
1C66 1C68 2C0 2xC8 2C0 n9wC6e 1C0 4C6e aC0 wC6e 2C0 28C6e 2C0 7oC9 1C0 11C9 1C0 47C9 1C0 rC6e
iC0 1lC64 3C0 11C9 1C0 2nC7 1C0 cC9 1C0 6nC6e 1C0 1C6e 2C64 1C0 2C6e 2C0 5C6e 2C0 1C6e 1C0 1gC9
1C0 6uC9 1C0 fn4Cq 1C0 ldC6e 7C64 7C6e 2C0 r1C64 1C0 6aC64 1C0 45C6e 5C0 1aqC64 1C0 1C6e 1C0
14C6e 1C1 1C64 1C0 4C9 1C0 4lC6e 1C64 1C0 fxC6e 4C0 arC6e 2C0 28C64 3C0 1yC64 2C6e 3C64 1C6e
1C64 4C0 1dC6e 1C64 1C6e 1C64 1C0 5cC9 1C0 15C9 1C0 eC9 1C0 1lC9 1C7 1C0 1xC6e 3C0 1cC9 2C0 1qC7
1C0 24C9 1C0 9C7 1C0 2yC9 1C7 1C0 4yC7 1C9 1C0 28C7 2C0 gC9 1C0 oC6e 7C0 3C6e 5C0 5pC9 1C0 3C7
1C0 nC6e 1C0 2rC9 1C7 1C0 6zC9 1C7 1C0 3iC9 1C0 3aC9 1C7 1C0 37C9 1C0 7hC9 1C7 1C0 76C9 2C0 4C7
1C0 4cC9 1C0 2bC9 1C0 iC9 1C0 29C9 1C0 bpC9 1C0 76C7 1C0 1C9 2C0 29C9 1C0 btC9 2C0 ey5C1 5C0
1nC6e 7C0 xlC6 2C0 f58C1 1C0 43qC60 2C1 3C0 3C6a 1C60 5C0 8C64 8C0 2C6e 5C64 2C0 uC6e 4C0 44C6e
3C0 2pnC6e 7C0 1C6e hC0 2C6e 7C0 1C6e 2C0 1C6e 5C0 2sC6e 1C0 4gC6e 7C0 afC6e 1C0 1pC6e 4C0 e4C6g
2C64 1C6e 1C0 rkC64 7C0 31C6e 6C7 1C0"

def combiningClass (c : Char) : Nat := ((combiningClasses.around? c.toNat).bind Segment.first?).getD 0

/-- The class of signs that take away an inherent vowel. -/
def viramaClass : Nat := 9

end GuidedLogin.Unicode
