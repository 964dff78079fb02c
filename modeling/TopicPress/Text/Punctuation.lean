import TopicPress.Text.Ascii
import TopicPress.Text.CodePointTable

/-!
# Punctuation

The characters of the general categories P (punctuation) and S (symbols).  In ASCII these are all
the visible characters but letters and digits; beyond, the table has a run `P` for them and a run
`N` for the others.  The table is that of Unicode 8.0: what was assigned later is neither.
-/

namespace TopicPress.Text

open CodePointTable

/-- The runs from U+0080 on. -/
def punctuationTable : Runs :=
  Runs.read 0x80
    "N21P9N1P2N1P4N2P1N1P3N2P1N3P1N17P1N1fP1N1caP4NcPeN5P7N1P1N1P11N75P1N8P1N5P2N1P1N6eP1N8bP1Nd7P6N
29P2N2P3N2eP1N1P1N2P1N2P1N2cP2N11PaNbP1N2P2N4aP4N66P1N9P1NaP1N13P2N1PeNe8P4N36PfN1fP1N105P2NaP1N81P
2N6P2Nf4P2N7eP1N82P8N84P1Nf9P1N7aP1N4aP1NfP1NaP2Na5P17N2P6N14P1N1P1N1P1N1P4N47P1N38P8N1P6N1PdN6fP6N
4eP2N5bP1N264P9N27PaN66P1N26cP2N2cP2N4eP3N47P2N9dP3N1P4N24PbN135P1N3P2N98P22N1eP2N80P7N1P6NacP11N9P
9N7fP4N3bP5N3eP2N40P8NbP1N2e9P1N1P3NbP3NdP3NdP3NdP2N11P18N8P2fN1bP5NbP5N11P1fN41P2N1P4N1P2NaP1N1P3N
5P6N1P1N1P1N1P1N4P1NbP2N4P5N5P4N1P1N3aP2N4P26bN5P27N19PbN51P4eN16P276N1eP3e0N2P20N2P22N3PcN1P8N1aP4
Nf5P6NeP4N1P2N70P1N8fP2fN1P13N3dP1aN1P59NcPd6N1aPcN5P4N3P19NfP1N5P2N5P3N5bP2N3P1N5aP1N94P2N4PaN20P2
4N1cP1fNbP1eN8P1NfP20NaP27NfP3fN1P100N19c0P40N5690P37N37P2N10dP3N63P1NaP1N73P6N8P17N9P2N67P2N9dP4Na
P4N3aP4N56P2N28P3N1P1N31P2N2fP1N61PdN10P2N7cP4N17P3N64P2N10P2N69P1N8fP1N4f3dP1N88P10N17cP2NbcP2N12P
aN16P23N1P13N1P4N95PfNaP7N1aP6N1aPbN7aP7N1P7NdP2N102P3N34P9N39P11N2P1N3PcN4P1N2fP2dN1a2P1N30P1N19eP
1N2e7P1N1fP2Na6P1N1fP1N110P9N26P1N48P1N27P7N42P7N59P4N4aaP7N6dP2N1P4N7eP4N30P2N4fP4N4P1NdP1N1P3N58P
6N6bP1N21cP1NfaP17N69P3Nf8P4Nd30P5N45f9P2N85P1N41P9N4P2N5156P1N2P1N1360Pf6NaP27N2P3cN5P3N16P2N7P1eN
4P3bN17P42N3P1NbaP57N36aP1N19P1N1fP1N19P1N1fP1N19P1N1fP1N19P1N1fP1N19P1N3cP200N37P4N32P8N1PeN1P7N14
64P2N10eP2cN4P64NcPfN2PfN1PfN1P25N1aP1fN1P3cN4P2bN4bP1dNdP2bN5P9N7P2NaeP27aN1P29N1P12cNfPdN3P4NcP74
NcP55N2bPcN4P38N8PaN6P28N8P1eN62P9N67P5N3bP1Nf063f"

/-- Punctuation or a symbol. -/
def isPunctuation (c : Char) : Bool :=
  if c.toNat < 0x80 then isAsciiPunctuation c else punctuationTable.value? c.toNat == some 'P'

end TopicPress.Text
