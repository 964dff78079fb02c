import TopicPress.Text.CodePointTable

/-!
# Characters of domain names

How internationalised domain names treat each character outside ASCII.  The letters of the table:

* `D` is never allowed, `I` is dropped, `S` is another form of the dot;
* `M` stands for other characters, which take its place;
* `C` and `B` are combining marks, the latter written from left to right by themselves;
* `R` is written from right to left, `A` is an Arabic digit, `E` another digit, `N` has no direction,
  and `L`, the rest, is written from left to right.
-/

namespace TopicPress.Url.DomainCharacter

open CodePointTable

/-- The runs from U+0080 on. -/
def table : Runs :=
  Runs.read 0x80
    "D21N7D1N1M1N2I1N1D1N2M2D1M1N2D1M2N1M3N1M17N1M7L18N1L8M1L1M1L1M1L1M1L1M1L1M1L1M1L1M1L1M1L1M1L
1M1L1M1L1M1L1M1L1M1L1M1L1M1L1M1L1M1L1M1L1M1L1M1L1M1L1M1L1M1L1M3L1M1L2M1L1M1L1M1L1M3L1M1L1M1L
1M1L1M2L1M1L1M1L1M1L1M1L1M1L1M1L1M1L1M1L1M1L1M1L1M1L1M1L1M1L1M1L1M1L1M1L1M1L1M1L1M1L1M1L1M1L
1M1L1M2L1M1L1M1L1M1L1M2L1M1L1M2L1M3L2M4L1M2L1M3L3M2L1M2L1M1L1M1L1M2L1M1L2M1L1M2L1M3L1M1L1M2L
3M1L7MaL1M1L1M1L1M1L1M1L1M1L1M1L1M1L2M1L1M1L1M1L1M1L1M1L1M1L1M1L1M1L1M1L2M4L1M3L1M1L1M1L1M1L
1M1L1M1L1M1L1M1L1M1L1M1L1M1L1M1L1M1L1M1L1M1L1M1L1M1L1M1L1M1L1M1L1M1L1M1L1M1L1M1L1M1L1M1L1M1L
1M1L1M1L1M1L7M2L1M2L2M1L1M4L1M1L1M1L1M1L1M1L61M9N2L7NeL2N6D6N2M5N9L1N11C40M2C1M3C9I1C20M1L1M
1L1M1N1M1L1D3L3M2D6M5D1M1D1M2L1M11D1M9L23M8L1M1L1M1L1M1L1M1L1M1L1M1L1M1L1M1L1M1L1M1L1M1L1M1L
1M3L1M2N1M1L1M2L2M33L30M1L1M1L1M1L1M1L1M1L1M1L1M1L1M1L1M1L1M1L1M1L1M1L1M1L1M1L1M1L1M1L1M1L2C
7M1L1M1L1M1L1M1L1M1L1M1L1M1L1M1L1M1L1M1L1M1L1M1L1M1L1M1L1M1L1M1L1M1L1M1L1M1L1M1L1M1L1M1L1M1L
1M1L1M1L1M1L1M1L1M2L1M1L1M1L1M1L1M1L1M1L1M1L2M1L1M1L1M1L1M1L1M1L1M1L1M1L1M1L1M1L1M1L1M1L1M1L
1M1L1M1L1M1L1M1L1M1L1M1L1M1L1M1L1M1L1M1L1M1L1M1L1M1L1M1L1M1L1M1L1M1L1M1L1M1L1M1L1M1L1M1L1M1L
1M1L1M1L1M1L1M1L1M1L1M1L1M1L1M1L1M1L1M1L1M1L1M1L1M1L1D1M26D2L2eM1L2N1D2N3D1C2dR1C1R1C2R1C2R1
C1D8R1bD4R6D11N2R1N2R1N1R1N2CbR1D1R2eC15AaN1A2R3C1R4M4R5dC7D1N1C6R2C2N1C4R2EaR14D2R1C1R1eC1b
D2R59CbR1DeR2bC9R2N4R1D2C1R18C4R1C9R1C3R1C5D2RfD1R19C3D2R1D1RbD5R1fD9C8R2aC18D1C20B1L36C1B1C
1L1B3C8B4C1B2L1C7M8L2C2L1dC1B2D1L8D2L2D2L16D1L7D1L1D3L4D2C1L1B3C4D2B2D2B2C1L1D8B1D4M2D1M1L2C
2D2LcN2L7N1L2C1D2C2B1D1L6D4L2D2L16D1L7D1L1M1D1L1M1D1L2D2C1D1B3C2D4C2D2C3D3C1D7M3L1D1M1D7LaC2
L3C1L1DaC2B1D1L9D1L3D1L16D1L7D1L2D1L5D2C1L1B3C5D1C2B1D1B2C1D2L1DfL2C2D2LbN1D7L1C6D1C1B2D1L8D
2L2D2L16D1L7D1L2D1L5D2C1L1B1C1B1C4D2B2D2B2C1D7C2B1D4M2D1L3C2D2L12DaC1L1D1L6D3L3D1L4D3L2D1L1D
1L2D3L2D3L3D3LcD4B2C1B2D3B3D1B3C1D2L1D6B1DeLdN8D5C1B3C1L8D1L3D1L17D1L10D2C1L1C3B4D1C3D1C4D7C
2D1L3D2L1D2L2C2D2LaD7L1N7L2C1B2L9D1L3D1L17D1LaD1L5D2C1L1B7D1B3D1B2C2D7B2D6L2D1L2C2D2LaD1L2Dd
C2B2L9D1L3D1L29C2L1B3C4D1B3D1B3C1L2D4L3B1LaC2D2L1aD1C1B2D1L12D3L18D1L9D1L1D2L7D3C1D4B3C3D1C1
D1B8D6LaD2B2L1DcL30C1L1M1C7D4N1L7C8LdD25L2D1L1D1L5D1L18D1L1D1LaC1L1M1C9L1D2L5D1L1D1C6D2LaD2M
2L2D20LcM1LbC2L1bC1L1C1L1C1N4B2L3M1L4D1L4M1L4M1L4M1L4M1LcM1L3D4C2M1C1M5C5B1C1M1C3L1C2L5C6M1C
4D1C4M1C4M1C4M1C4M1CcM1C3D1L8C1L6D1LdD25L2bB2C4B1C6B1C2B2C2L17B2C2L4C3L1B3L2B7L3C4LdC1B2C2B6
C1L1B1LaB3C1L2M26D1M1D5M1D2L2cM1L14cD1L4D2L7D1L1D1L4D2L29D1L4D2L21D1L4D2L7D1L1D1L4D2LfD1L39D
1L4D2L43D2C3L1dD3L10NaD6L56D2M6D2N1L27fD1L1aN2D3L59D7L12C3B1D9L13C2B1L2D9L12C2DcLdD1L3D1C2Dc
L34C2B1C7B8C1B2CbL7N1L1C1D2LaD6NaD6NbI3D1I1LaD6L59D7L5C2L22C1L1D5L46DaL1fD1C3B4C2B3D4B2C1B6C
3D4N1D3N2L28D2L5DbL2cD4L1aD6LbD3N22L17C2B2C1D2L37B1C1B1C7D1C1B1C1B2C8B6CaD2C1LaD6LaD6LeD2C1f
D31C4B1L2fC1B1C5B1C1B5C1B2L8D3L1bC9LbD1C2B1L1eB1C4B2C2B1C3L38C1B1C2B3C1B1C3B2D8L28B8C8B2C2D3
LfD3L33M9D7M2bD2M3L8D8C3L1CdB1C7L4C1L6C1L2B1C2L1D5L2cM3L1MbL1M12L1M1cLdM1L22M25C40M1L1M1L1M1
L1M1L1M1L1M1L1M1L1M1L1M1L1M1L1M1L1M1L1M1L1M1L1M1L1M1L1M1L1M1L1M1L1M1L1M1L1M1L1M1L1M1L1M1L1M1
L1M1L1M1L1M1L1M1L1M1L1M1L1M1L1M1L1M1L1M1L1M1L1M1L1M1L1M1L1M1L1M1L1M1L1M1L1M1L1M1L1M1L1M1L1M1
L1M1L1M1L1M1L1M1L1M1L1M1L1M1L1M1L1M1L1M1L1M1L1M1L1M1L1M1L1M1L1M1L1M1L1M1L1M1L1M1L1M1L1M1L1M1
L1M1L1M1L1M1L5M2L2M1L1M1L1M1L1M1L1M1L1M1L1M1L1M1L1M1L1M1L1M1L1M1L1M1L1M1L1M1L1M1L1M1L1M1L1M1
L1M1L1M1L1M1L1M1L1M1L1M1L1M1L1M1L1M1L1M1L1M1L1M1L1M1L1M1L1M1L1M1L1M1L1M1L1M1L1M1L1M1L1M1L1M1
L1M1L1M1L1M1L1M1L1M1L1M1L1M1L9M8L6D2M6D2L8M8L8M8L6D2M6D2L8D1M1D1M1D1M1D1M1L8M8L1M1L1M1L1M1L1
M1L1M1L1M1L1M1D2M30L2M3D1L1M6D1M1D3M3D1L1M6D3L3M1D2L2M4D4L3M1L4M5D2M1D2M3D1L1M6DeI1D4N1M1N5D
1NcM3N1D8N3M2N1M2N4M1N1D1N8D3NdM1N7D1I1D3I1DbM2D2M1bD1MdD3N8M1N18DfC21D11M2N1D2M1N1MbN1M2N2M
5N2M3N1M1N1M1N1M1N1M4N1MbN1M6N4M5N4L2M30L3M1L5M1N2D4N9cM2N1M2Nf8M2NbL45N1aL1N91D19NbD15M8bN1
c1L1N153L100N10cM1N67D1M2N65M1N97D2N20D1N69M30L30M1L1M3L2M1L1M1L1M1L1M4L1M1L2M1L6M5L1M1L1M1L
1M1L1M1L1M1L1M1L1M1L1M1L1M1L1M1L1M1L1M1L1M1L1M1L1M1L1M1L1M1L1M1L1M1L1M1L1M1L1M1L1M1L1M1L1M1L
1M1L1M1L1M1L1M1L1M1L1M1L1M1L1M1L1M1L1M1L1M1L1M1L1M1L1M1L1M1L1M1L1M1L1M1L1M1L1M1L1M1L1M1L1M1L
1M1L2N6M1L1M1L1C3M1L1D5N7L26D1L1D5L1D2L38D7M1L1DeC1L17D9L7D1L7D1L7D1L7D1L7D1L7D1L7D1L7D1C20N
5eD22N1aD1N4M1N53M1DcMd6D2bN1S1N2L3N19L9C4B2N1L5M1N1M3L2N3D1L56D2C2D2L2M1N1L5aN1L3M1D5L2bD1M
5eD1L2MeL20N24DcL10M1fD1M28L8M2fL1M180L19c0N40L568dD3N37D9L13dN3L1cD14M1L1M1L1M1L1M1L1M1L1M1
L1M1L1M1L1M1L1M1L1M1L1M1L1M1L1M1L1M1L1M1L1M1L1M1L1M1L1M1L1M1L1M1L1M1L2C4N1CaN2M1L1M1L1M1L1M1
L1M1L1M1L1M1L1M1L1M1L1M1L1M1L1M1L1M1L1M1L1M2C2L50C2L6D8N22M1L1M1L1M1L1M1L1M1L1M1L1M1L3M1L1M1
L1M1L1M1L1M1L1M1L1M1L1M1L1M1L1M1L1M1L1M1L1M1L1M1L1M1L1M1L1M1L1M1L1M1L1M1L1M1L1M1L1M1L1M1L1M1
L1M1L1M1L1M1L1M1L1M1L1M1L1M1L8M1L1M1L1M2L1M1L1M1L1M1L1M1L1N1L2M1L1M1L2M1L1M1L3M1L1M1L1M1L1M1
L1M1L1M1L1M1L1M1L1M1L1M1L1M5L1M5L1M1L1M1L1M1L1M1L1M1L1M1L1M1L1M4L1M1L1D5M1L1D1L1D1L1M1L1M1L1
D18M4L2M2L8C1L3C1L4C1L17B2C2B1N4C1D3L8N2D6L34N4D8B2L32B10C2D8LcD6C12LdC1L26C8L19CbB2DbL1eD3C
3B1L2fC1B2C4B2C2B3LdD1LbD4L7C1L19D1L29C6B2C2B2C2D9L3C1L8C1B1D2LaD2L1fB1C1B1L32C1L1C3L2C2L5C2
L1C1L1D18L10B1C2B2L5B1C1DaL6D2L6D2L6D9L7D1L7D1L2cM4L9M1N2D4M50L23B2C1B2C1B2L1B1C1D2LaD6L2ba4
DcL17D4L31D2104M10eL2M1L1M1L2MaL1M1L1M1L2M2L3M44D2M6aD26M7DcM5D5M1C1M18D1M5D1M1D1M2D1M2D1M6c
R11D10M8bD6MdaN12M40D2M36D7N1D20MaD2M1N3I10M3D1M2D1M3D6C10M15N2D6M6D1M1D2M8D1M4D2M1D2M1D7M1D
1R1D3M1D1M1D1M1D1M1D1M7eD2I1D1M2D1M1D1M8S1D1MaD1M1D1M1D3M1aD4M1dD1M4S1M5dD3M6D2M6D2M6D2M3D3M
3D1M3D1M7D11LcD1L1aD1L13D1L2D1LfD2LeD22L7bD5L1N1L1D4L2dD3L9N4dL2D1NdD3N1D2fL2dC1D82L1dD3L31D
fC1E1bD4L24D9L1eD5L26C5D5L1eD1L25D4LeD2aM28L76D2LaD6M24D4L24D4L28D8L34DbL1MbD1MfD1M7D1M2D1Lb
D1LfD1L7D1L2D43L137D9L16DaL8D18L1M5D1M2aD1M9D45R6D2R1D1R2cD1R2D3R1D2R17D1R48D8R9D30R13D1R2D5
R21D3N1R1aD5R1D40R38D4R14D2R2fC3D1C2D5C4R4D1R3D1R1dD2C3D4C1R9D7R9D7R40D20R25C2D4RcD9R36D3N7R
16D2R1bD5R1aD7R4DcR7D50R49D37M33DdR33D7R2aC4D8AaD126A1fD1R2aD1C2R1D2R2D4eR28D8R16CbR9D16R12C
4R4D26R1cD14R17D9B1C1B1L35CfL7D4N14LaC1L2C2L1D9C3B1L2dB3C4B2C2L2D1L4C1DdL19D7LaD6C3L24C5B1C8
D1LfB2L1D8L23C1L3D9C2B1L30B3C9B2L8C4L1B1C1L10D1L14DbL12D1L19B3C3B2C1B1C2L6C1D41L7D1L1D1L4D1L
fD1LbD6L2fC1B3C8D5LaD6C2B2D1L8D2L2D2L16D1L7D1L2D1L5D1C2L1B2C1B4D2B2D2B3D2L1D6B1D5L5B2D2C7D3C
5D8bL35B3C8B2C3B1C1L15D1L1C1L3D1eL30B3C6B1C1B4C2B1C2L4D8LaDa6L2fB3C4D2B4C2B1C2L1bC2D22L30B3C
8B2C1B1C2L4DbLaD6NdD13L2bC1B1C1B2C6B1C1L2D6LaD36L1bD2C3B2C4B1C5D4L17Db9L2cB3C9B1C2L1D64M20L3
3DcL8D2L1D2L8D1L2D1L18B6D1B2D2C2B1C1L1B1L1B1C1L3D9LaD46L8D2L27B3C4D2C2B4C1L3B1D1bL1C6B2C2L28
C6B1L1C4L8C1D8L1C6B2C3L2eCdB1C2L9DdL49D107L9D1L25B1C7D1C6B2L6DaL1dD3L20D2C16D1B1C7B1C2B1C2D4
9L7D1L2D1L26C6D3C1D1C2D1C7L1C1D8LaD6L6D1L2D1L20B5D1C2D1B2C1B1C1L1D7LaD136L13C2B2L2Db7L1DfL15
N1dDdL39bD66L6fD1L5DbLc4Da4cL63DdL42fDfd1L247D21b9L239D7L1fD1LaD4L51D1LaD6L1eD2C5L1DaL30C7Lf
DaLaD1L7D1L15D5L13D2b0M20L3bD65L4bD4C1L1B37D7C4LdD40L2N1L1C1DbB2DeL17f8D8L4d6D2aL9D22e7L4D1L
7D1L2D1L123D2dL3D11L4D8L18cD904L6bD5LdD3L9D7LaD2L1C2L1I4D125cC2eD2C17D9L74D3cLf6DaL27D2L35M7
B2C3L3B6D8C8L2C7L1eC4LdM6L28N2D15N42C3N1D9aL14DcN57D9L19D87M55D1M47D1M2D2M1D2M2D2M4D1McD1M1D
1M7D1M41D1M4D2M8D1M7D1M1cD1M4D1M5D1M1D3M7D1M154D2M124D2M32L200C37L4C32L8C1LeC1L7DfC5D1CfD450
L1fDe1C7D1C11D2C7D1C2D1C5Dd5L2dD3C7L7D2LaD4L2D140L1eC1D11L2cC4LaD5N1D4e0L7D1L4D1L2D1LfD1Rc5D
2R9C7D29M22R22C7R1D4RaD4R2D311R44D4cR3dDc2M4D1M1bD1M2D1M1D2M1D1MaD1M4D1M1D1M1D6M1D4M1D1M1D1M
1D1M3D1M2D1M1D2M1D1M1D1M1D1M1D1M1D1M2D1M1D2M4D1M7D1M4D1M4D1M1D1MaD1M11D5M3D1M5D1M11D34N2D10e
N2cD4N64DcNfD2NfD1NfD1N25DaMbN5M1fN1M20L1aM3N3L20M1L1cN1D38L1aM3DdM2cD4M9D7M2DeN6D9aN3d8D5N1
0D3NdD3N74DcN59D7NcD4N1DfNcD4N38D8NaD6N28D8N1eD2N2D4eN154DcNeD2N5D3N5D3N7D9N1dD3NbD5N6DaNaD6
N8D8N7D9N93D1N37D25MaD406La6e0D20L1039D7LdeD2L1682DeL1d31Dc1fM21eD5e2L134bDaedb5If0D2fe10"

/-- The letter of a character outside ASCII. -/
def letter (c : Char) : Char := (table.value? c.toNat).getD 'D'

end TopicPress.Url.DomainCharacter
