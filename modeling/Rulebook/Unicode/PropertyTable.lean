/-!
Properties of code points that are given by lists, and the scripts that a code point is written in
beside its own or instead of it. A list is made of words: in hexadecimal, how many code points are
left out since the last range, and how many follow the first one of the next range.
-/

namespace Rulebook.Unicode

def listedProperties : List (List String × List String) := [
  (["asciihexdigit", "ahex"], [
    "30+9 7+5 1A+5"]),
  (["bidicontrol", "bidic"], [
    "61C 19F1+1 1A+4 37+3"]),
  (["changeswhencasefolded", "cwcf"], [
    "41+19 5A A+16 1+7 20 1 1 1 1 1 1 1 1 1 1 1 1 1 1 1 1 1 1 1 1 1 1 1 1 1 1 1 2 1 1 1 1 1 1 1",
    "1+1 1 1 1 1 1 1 1 1 1 1 1 1 1 1 1 1 1 1 1 1 1 1 1+1 1 1 1 1+1 1 1+1 1+2 2+3 1+1 1+2 3+1 1+1 1",
    "1 1+1 1 2 1+1 1+2 1 1+1 3 7+1 1+1 1+1 1 1 1 1 1 1 1 1 2 1 1 1 1 1 1 1 1 2+1 1 1+2 1 1 1 1 1 1",
    "1 1 1 1 1 1 1 1 1 1 1 1 1 1 1 1 1 1 1 1 1 1 1 7+1 1+1 2 1+3 1 1 1 1 F6 2A 1 3 8 6 1+2 1 1+1",
    "1+10 1+8 16 C+2 3+1 1 1 1 1 1 1 1 1 1 1 1 1 1+1 2+1 1 1+1 2+32 30 1 1 1 1 1 1 1 1 1 1 1 1 1 1",
    "1 1 9 1 1 1 1 1 1 1 1 1 1 1 1 1 1 1 1 1 1 1 1 1 1 1 1 1 1 1+1 1 1 1 1 1 1 2 1 1 1 1 1 1 1 1 1",
    "1 1 1 1 1 1 1 1 1 1 1 1 1 1 1 1 1 1 1 1 1 1 1 1 1 1 1 1 1 1 1 1 1 1 1 1 1 1 2+25 30 B18+25 1",
    "5 32A+5 882+8 7+2A 2+2 140 1 1 1 1 1 1 1 1 1 1 1 1 1 1 1 1 1 1 1 1 1 1 1 1 1 1 1 1 1 1 1 1 1",
    "1 1 1 1 1 1 1 1 1 1 1 1 1 1 1 1 1 1 1 1 1 1 1 1 1 1 1 1 1 1 1 1 1 1 1 1 1 1 1 1 1 5+1 2 1 1 1",
    "1 1 1 1 1 1 1 1 1 1 1 1 1 1 1 1 1 1 1 1 1 1 1 1 1 1 1 1 1 1 1 1 1 1 1 1 1 1 1 1 1 1 1 1 1 9+7",
    "8+5 A+7 8+7 8+5 B 1 1 1 8+7 10+2F 2+2 2+5 5+2 2+5 B+3 C+4 5+2 2+5 129 3+1 6 2D+F 13 332+19",
    "730+2F 30 1+2 2 1 1 1+3 1 2 8+2 1 1 1 1 1 1 1 1 1 1 1 1 1 1 1 1 1 1 1 1 1 1 1 1 1 1 1 1 1 1 1",
    "1 1 1 1 1 1 1 1 1 1 1 1 1 1 1 1 1 1 8 1 4 794D 1 1 1 1 1 1 1 1 1 1 1 1 1 1 1 1 1 1 1 1 1 1 13",
    "1 1 1 1 1 1 1 1 1 1 1 1 1 87 1 1 1 1 1 1 3 1 1 1 1 1 1 1 1 1 1 1 1 1 1 1 1 1 1 1 1 1 1 1 1 1",
    "1 1 1 1 1 A 1 1+1 1 1 1 1 4 1 2 1 3 1 1 1 1 1 1 1 1 1 1+4 1+4 1 1 1 1 1 1 1 1+3 1 6 5 1 1C",
    "37A+4F 4F40+6 C+4 409+19 4C5+27 88+23 9C+A 1+E 1+6 1+1 6EA+32 BED+1F 5580+1F 7AA0+21"]),
  (["changeswhencasemapped", "cwcm"], [
    "41+19 6+19 3A A+16 1+1E 1+3F 1+53 1+C 1+D 2+D 2+1 1 4+5C 1+11 6+1A 1+1 1 1+1 3+1 1 1+1 1+4 2",
    "1+1 2 7 2 1+1 3+5 5 A+1 A6 2A+3 2+1 3+2 1 6 1+2 1 1+13 1+2E 3+20 1+4 1+84 8+A5 1+25 A+26",
    "B18+25 1 5 2+2A 2+2 2A0+55 2+5 882+8 7+2A 2+2 B9 3 10 71+9B 2 1+75 2+5 2+25 2+5 2+7 1 1 1",
    "1+1E 2+34 1+6 1 3+2 1+6 3+3 2+5 4+C 5+2 1+6 129 3+1 6 1B 11+1F 3+1 331+33 716+70 1+1 1+1 7+65",
    "7+3 3+1 C+25 1 5 7912+2D 12+1B 86+D 2+3D 9+E 3+2 2+4 1+18 1+1A 5+1 4+3 1B+1 35C 1C+4F 4F40+6",
    "C+4 409+19 6+19 4A5+4F 60+23 4+23 74+A 1+E 1+6 1+1 1+A 1+E 1+6 1+1 6C3+32 D+32 BAD+3F 5560+3F",
    "7A80+43"]),
  (["changeswhenlowercased", "cwl"], [
    "41+19 65+16 1+6 21 1 1 1 1 1 1 1 1 1 1 1 1 1 1 1 1 1 1 1 1 1 1 1 1 1 1 1 2 1 1 1 1 1 1 1 2 1",
    "1 1 1 1 1 1 1 1 1 1 1 1 1 1 1 1 1 1 1 1 1 1+1 1 1 3+1 1 1+1 1+2 2+3 1+1 1+2 3+1 1+1 1 1 1+1 1",
    "2 1+1 1+2 1 1+1 3 7+1 1+1 1+1 1 1 1 1 1 1 1 1 2 1 1 1 1 1 1 1 1 2+1 1 1+2 1 1 1 1 1 1 1 1 1 1",
    "1 1 1 1 1 1 1 1 1 1 1 1 1 1 1 1 1 1 1 7+1 1+1 2 1+3 1 1 1 1 121 1 3 8 6 1+2 1 1+1 1+10 1+8 23",
    "8 1 1 1 1 1 1 1 1 1 1 1 5 2 1+1 2+32 30 1 1 1 1 1 1 1 1 1 1 1 1 1 1 1 1 9 1 1 1 1 1 1 1 1 1 1",
    "1 1 1 1 1 1 1 1 1 1 1 1 1 1 1 1 1+1 1 1 1 1 1 1 2 1 1 1 1 1 1 1 1 1 1 1 1 1 1 1 1 1 1 1 1 1 1",
    "1 1 1 1 1 1 1 1 1 1 1 1 1 1 1 1 1 1 1 1 1 1 1 1 1 2+25 B49+25 1 5 2D2+55 89A+2A 2+2 140 1 1 1",
    "1 1 1 1 1 1 1 1 1 1 1 1 1 1 1 1 1 1 1 1 1 1 1 1 1 1 1 1 1 1 1 1 1 1 1 1 1 1 1 1 1 1 1 1 1 1 1",
    "1 1 1 1 1 1 1 1 1 1 1 1 1 1 1 1 1 1 1 1 1 1 1 1 9 1 1 1 1 1 1 1 1 1 1 1 1 1 1 1 1 1 1 1 1 1 1",
    "1 1 1 1 1 1 1 1 1 1 1 1 1 1 1 1 1 1 1 1 1 1 1 1 1 1 9+7 8+5 A+7 8+7 8+5 B 1 1 1 8+7 18+7 8+7",
    "8+7 8+4 B+4 B+3 C+4 B+4 129 3+1 6 2D+F 13 332+19 730+2F 30 1+2 2 1 1 1+3 1 2 8+2 1 1 1 1 1 1",
    "1 1 1 1 1 1 1 1 1 1 1 1 1 1 1 1 1 1 1 1 1 1 1 1 1 1 1 1 1 1 1 1 1 1 1 1 1 1 1 1 1 1 1 8 1 4",
    "794D 1 1 1 1 1 1 1 1 1 1 1 1 1 1 1 1 1 1 1 1 1 1 13 1 1 1 1 1 1 1 1 1 1 1 1 1 87 1 1 1 1 1 1",
    "3 1 1 1 1 1 1 1 1 1 1 1 1 1 1 1 1 1 1 1 1 1 1 1 1 1 1 1 1 1 1 A 1 1+1 1 1 1 1 4 1 2 1 3 1 1 1",
    "1 1 1 1 1 1 1+4 1+4 1 1 1 1 1 1 1 1+3 1 6 5 1 1C 572B+19 4C5+27 88+23 9C+A 1+E 1+6 1+1 6EA+32",
    "BED+1F 5580+1F 7AA0+21"]),
  (["changeswhentitlecased", "cwt"], [
    "61+19 3A 29+17 1+7 1 1 1 1 1 1 1 1 1 1 1 1 1 1 1 1 1 1 1 1 1 1 1 1 1 1 1 1 2 1 1 1 1 1 1 1+1",
    "1 1 1 1 1 1 1 1 1 1 1 1 1 1 1 1 1 1 1 1 1 1 1 2 1 1+2 2 1 2 3 5 2 3+1 3 2 1 1 2 4 2 3 1 2 3 1",
    "4 1+1 1+1 1 1 1 1 1 1 1 1 1+1 1 1 1 1 1 1 1 1 1+2 1 1 3 1 1 1 1 1 1 1 1 1 1 1 1 1 1 1 1 1 1 1",
    "3 1 1 1 1 1 1 1 1 8 2+1 1 4 1 1 1 1+5 1+1 1 1+1 3+1 1 1+1 1+4 2 1+1 2 7 2 1+1 3+5 5 A+1 A6 2B",
    "1 3 3+2 12 1B+22 1+1 3+2 1 1 1 1 1 1 1 1 1 1 1 1+4 1 2 2 34+2F 1 1 1 1 1 1 1 1 1 1 1 1 1 1 1",
    "1 1 9 1 1 1 1 1 1 1 1 1 1 1 1 1 1 1 1 1 1 1 1 1 1 1 1 1 1 2 1 1 1 1 1 1+1 1 1 1 1 1 1 1 1 1 1",
    "1 1 1 1 1 1 1 1 1 1 1 1 1 1 1 1 1 1 1 1 1 1 1 1 1 1 1 1 1 1 1 1 1 1 1 1 1 1 31+26 E70+5 882+8",
    "F0 3 10 72 1 1 1 1 1 1 1 1 1 1 1 1 1 1 1 1 1 1 1 1 1 1 1 1 1 1 1 1 1 1 1 1 1 1 1 1 1 1 1 1 1",
    "1 1 1 1 1 1 1 1 1 1 1 1 1 1 1 1 1 1 1 1 1 1 1 1 1 1 1 1 1 1 1 1 1+6 5 1 1 1 1 1 1 1 1 1 1 1 1",
    "1 1 1 1 1 1 1 1 1 1 1 1 1 1 1 1 1 1 1 1 1 1 1 1 1 1 1 1 1 1 1 1 1 1 1+8 8+5 A+7 8+7 8+5 A+7",
    "8+7 8+D 2+7 8+7 8+7 8+4 1+1 6 3+2 1+1 8+3 2+1 8+7 A+2 1+1 156 21+F 4 34B+19 746+2F 1 3+1 1 1",
    "1 6 2 A 1 1 1 1 1 1 1 1 1 1 1 1 1 1 1 1 1 1 1 1 1 1 1 1 1 1 1 1 1 1 1 1 1 1 1 1 1 1 1 1 1 1 1",
    "1 1 1 1 1 1 8 1 4 C+25 1 5 7913 1 1 1 1 1 1 1 1 1 1 1 1 1 1 1 1 1 1 1 1 1 1 13 1 1 1 1 1 1 1",
    "1 1 1 1 1 1 87 1 1 1 1 1 1 3 1 1 1 1 1 1 1 1 1 1 1 1 1 1 1 1 1 1 1 1 1 1 1 1 1 1 1 1 1 1 A 1",
    "2 1 1 1 1 4 4 1+1 2 1 1 1 1 1 1 1 1 1 B 1 1 1 1 1 1 1 4 1 6 5 1 1C 35C 1C+4F 4F40+6 C+4",
    "429+19 4CD+27 88+23 9B+A 1+E 1+6 1+1 703+32 BCD+1F 5580+1F 7AA2+21"]),
  (["changeswhenuppercased", "cwu"], [
    "61+19 3A 29+17 1+7 1 1 1 1 1 1 1 1 1 1 1 1 1 1 1 1 1 1 1 1 1 1 1 1 1 1 1 1 2 1 1 1 1 1 1 1+1",
    "1 1 1 1 1 1 1 1 1 1 1 1 1 1 1 1 1 1 1 1 1 1 1 2 1 1+2 2 1 2 3 5 2 3+1 3 2 1 1 2 4 2 3 1 2 3 1",
    "5+1 1+1 1+1 1 1 1 1 1 1 1 1+1 1 1 1 1 1 1 1 1 1+1 1+1 1 3 1 1 1 1 1 1 1 1 1 1 1 1 1 1 1 1 1 1",
    "1 3 1 1 1 1 1 1 1 1 8 2+1 1 4 1 1 1 1+5 1+1 1 1+1 3+1 1 1+1 1+4 2 1+1 2 7 2 1+1 3+5 5 A+1 A6",
    "2B 1 3 3+2 12 1B+22 1+1 3+2 1 1 1 1 1 1 1 1 1 1 1 1+4 1 2 2 34+2F 1 1 1 1 1 1 1 1 1 1 1 1 1 1",
    "1 1 1 9 1 1 1 1 1 1 1 1 1 1 1 1 1 1 1 1 1 1 1 1 1 1 1 1 1 1 2 1 1 1 1 1 1+1 1 1 1 1 1 1 1 1 1",
    "1 1 1 1 1 1 1 1 1 1 1 1 1 1 1 1 1 1 1 1 1 1 1 1 1 1 1 1 1 1 1 1 1 1 1 1 1 1 1 31+26 B48+2A",
    "2+2 2F8+5 882+8 F0 3 10 72 1 1 1 1 1 1 1 1 1 1 1 1 1 1 1 1 1 1 1 1 1 1 1 1 1 1 1 1 1 1 1 1 1",
    "1 1 1 1 1 1 1 1 1 1 1 1 1 1 1 1 1 1 1 1 1 1 1 1 1 1 1 1 1 1 1 1 1 1 1 1 1 1 1 1 1+6 5 1 1 1 1",
    "1 1 1 1 1 1 1 1 1 1 1 1 1 1 1 1 1 1 1 1 1 1 1 1 1 1 1 1 1 1 1 1 1 1 1 1 1 1 1 1 1 1 1+8 8+5",
    "A+7 8+7 8+5 A+7 8+7 8+D 2+34 1+1 4 1 3+2 1+1 4 3+3 2+1 8+7 A+2 1+1 4 151 21+F 4 34B+19 746+2F",
    "1 3+1 1 1 1 6 2 A 1 1 1 1 1 1 1 1 1 1 1 1 1 1 1 1 1 1 1 1 1 1 1 1 1 1 1 1 1 1 1 1 1 1 1 1 1 1",
    "1 1 1 1 1 1 1 1 1 1 1 8 1 4 C+25 1 5 7913 1 1 1 1 1 1 1 1 1 1 1 1 1 1 1 1 1 1 1 1 1 1 13 1 1",
    "1 1 1 1 1 1 1 1 1 1 1 87 1 1 1 1 1 1 3 1 1 1 1 1 1 1 1 1 1 1 1 1 1 1 1 1 1 1 1 1 1 1 1 1 1 1",
    "1 1 1 A 1 2 1 1 1 1 4 4 1+1 2 1 1 1 1 1 1 1 1 1 B 1 1 1 1 1 1 1 4 1 6 5 1 1C 35C 1C+4F 4F40+6",
    "C+4 429+19 4CD+27 88+23 9B+A 1+E 1+6 1+1 703+32 BCD+1F 5580+1F 7AA2+21"]),
  (["dash"], [
    "2D 55C 33 E41 405 809+5 3D 27 F 186 C04 2 1F+1 4 1C 1BE 13 6F CD90+1 25 A A9 F9F"]),
  (["defaultignorablecodepoint", "di"], [
    "AD 2A1 2CC B42+1 653+1 55+4 7FB+4 1A+4 31+F 10F4 CC9B+F EF A0 4F+8 BCA7+3 14CF+7 C2E85+FFF"]),
  (["deprecated", "dep"], [
    "149 529 903 1 829+1 8C5+5 2B9+1 DDCD6"]),
  (["diacritic", "dia"], [
    "5E 1 47 6 4 2+1 1F7+9E 1+7 5+5 11+1 4 9+1 FD+4 D1 37+10 1+1A 1 1+1 1 86+7 4+1 86+1 4+1 3+2",
    "43+1A 5B+A 3A+A 22+1 7E+7 29+9 10+1B 3D 10 3+3 1C 4A 10 6E 10 6E 10 2F+2 3C 10 7 77 6E 10 6E",
    "10 6D+1 10 7C 7C+5 1 6B D+4 4B+1 1B 1 1 4+1 42+2 1+1 3E 70 1+1 28+1 4+4 19+6 1 A+1 2C1+2",
    "3B4+1 B3+A 9 15B+2 139+7 2 30+E 2+A 68 F 26+8 36+1 8A+1 40+5 52+18 4 6 2+2 32+3E 59+B 25+A",
    "1BD 1+2 B+2 D+2 D+2 D+1 CF0+2 13D 1FA+5 69+3 5F 7572 C+1 1 1C+1 52+1 E+21 66+2 6D+1 CA 1B+11",
    "39+3 24 5F C 24 95+2 41+3 33 64+4 9+2 80+1 4F30 301+F 10E 1 2F 2D+1 43 2FC 49F+5 1+29 1+8",
    "32A+1 23B+5 1D5+2 46+A 31+3 C0 29 48+1 78+1 3E 4C 9+2 68+1 B2+1 51 10 18+6 3+4 CD 3 7B+1 FB+1",
    "7E 76+1 73 10D+1 102+1 4 9C 53 12 51 1A5 102 1+1 51 16AF+E 369A+4 3B+6 458+10 50+1 3FFE+3 1+6",
    "1+1 1F01+2D 2+16 220+2 3+5 8+7 2+6 1E+3 E82+3D C2+6 177 3D+3 5E0+6 6D+2 1+2"]),
  (["emoji"], [
    "23 6 5+9 6F 4 1F8D C D8 16 5A+5 F+1 16F+1 C A6 19+A 4+2 C7 E7+1 A 9 3A+3 1+4 9 2 2+1 2 4 2",
    "1+1 2 3 3+1 8+2 5 1 5+B B+1 2 1+1 1 12 2+1 12+5 1 1+1 3+1 5 2+1 4+1 B+1 5+1 2 5+1 1 1+1 14+1",
    "5+5 1+3 2 4 2 2+5 1 2 1 1 6 3 6 A+1 F 2 4 1 4+2 1 B+1 30+2 9 E E 174+1 1CF+2 13+1 33 4 4DA C",
    "259 1 1BD6A CA A0+1 C+1 E 2+9 4B+19 1+1 17 14 2+8 15+1 AE+21 2+6F 2+1 1+2 2+52 2+2 1+106 1+3E",
    "B+5 1+17 7+1 2+7 C 2+3 2 4+1 D+1 2 8+1 9 5+2 C+2 8+2 2 1 4 6 3 6+55 30+45 5+7 2+2 4+9 3 1+1 3",
    "2+9 E3+B 4 11B+2E 1+9 1+B8 70+C 3+9 5+37 7+E 2+A 6+8"]),
  (["emojicomponent", "ecomp"], [
    "23 6 5+9 1FD3 D5 DD2B F3D6+19 1FB+4 5B0+3 C066C+5F"]),
  (["emojimodifier", "emod"], [
    "1F3FB+4"]),
  (["emojimodifierbase", "ebase"], [
    "261D DB 10+3 1CC77 3C+2 2 2+2 75+1 2+A 15+12 3 4+2 1+2 7 1 18 C9+1 4 15 4+1 AE+2 3+4 53 10+2",
    "9 B 23F 2 8+7 6 9+9 2+2 38 3D+1 1+1 1 11+2 1+C E5+2 2A+8"]),
  (["emojipresentation", "epres"], [
    "231A+1 CD+3 3 2 209+1 15+1 32+B 2B 13 D 8+1 11+1 5+1 8 5 15 7+1 1 4 2 7 4+1 1C 23 1 4+2 1",
    "3D+2 18 E 35B+1 33 4 1C4AE CA BE 2+9 4B+19 1 18 14 2+4 1+2 15+1 AE+20 C+8 1+45 1+15 C+2A 4+4",
    "C+10 3 3+46 1 1+BA 2+3E D+3 1+17 12 1A+1 D 56+54 30+45 6 3+2 2+2 4+3 B+1 7+8 E3+B 4 11B+2E",
    "1+9 1+B8 70+C 3+9 5+37 7+E 2+A 6+8"]),
  (["extendedpictographic", "extpict"], [
    "A9 4 1F8D C D8 16 5A+5 F+1 16F+1 C 5F 46 19+A 4+2 C7 E7+1 A 9 3A+3 1+5 1+B 1+71 A+75 2+A 1 1",
    "6 3 6 A+1 F 2 4 1 4+2 1 B+4 2D+2 9 E E 174+1 1CF+2 13+1 33 4 4DA C 259 1 1BD66+FF D+2 1F 3C+5",
    "C+1 E 2+9 12+38 1B+E A 14 2+8 1+3 9+1B1 5+13D 8+109 30+7F 74+B 55+2A C+3 38+7 A+5 28+7 1E+51",
    "C+2E 1+9 1+1B8 100+3FD"]),
  (["extender", "ext"], [
    "B7 218+1 36E 1B9 35A 2F0 7F 943 38 263 18E 44 1389 2B+4 67+1 5D+2 6F16 5F6 3C2 16 89 6C 15+1",
    "547B 810+1 BDA 268+2 4CF 50A9+1 49C+1 1 7158+1 806+2"]),
  (["graphemelink", "grlink"], [
    "94D 7F 7F 7F 7F 7F 7F 7F 6D+1 10 7C 6F 7F C9 B4+1 6D9+1 1E 9D 28D E3 65+1 46+1 118B 7A86 25",
    "97 8E 6C 135 F6 5E51 606 29 E 39 79+1 8B 74 B4 62 F4 7F FC 7F 76 74 10D 103+1 A1 53 12 51 1A5",
    "104+1 51 1A9+1"]),
  (["hexdigit", "hex"], [
    "30+9 7+5 1A+5 FEA9+9 7+5 1A+5"]),
  (["hyphen"], [
    "2D 7F 4DC 127B 809+1 E05 2E3 CD67 A9 57"]),
  (["idsbinaryoperator", "idsb"], [
    "2FF0+1 2+7"]),
  (["idstrinaryoperator", "idst"], [
    "2FF2+1"]),
  (["ideographic", "ideo"], [
    "3006+1 19+8 E+2 3C5+19BF 40+51FF 5900+16D 2+69 750A 1B+17F7 8+4D5 2A+8 2467+18B 4D04+A6DF",
    "20+1039 6+DD 2+1681 E+1D30 C1F+21D 5E2+134A 5+105F"]),
  (["joincontrol", "joinc"], [
    "200C+1"]),
  (["logicalorderexception", "loe"], [
    "E40+4 7B+4 AF0+2 2 90FA+1 2 1+1"]),
  (["math"], [
    "2B 10+2 1F 1D 1 2D 4 25 1F 2D8+2 2 1A+1 2+2 20F+2 1A0D 1B+2 B 3 D E+3 15+4 B+4 41+C 4 3+1 4+4",
    "12 4 2+9 1 2+5 6 3+1 2+1 1+2 1+5 3+D 1 44+17 1+5 1+1 4+1 4+1F 1 6+1 E+10B 8+3 14+1 5A 1E+1A 1",
    "18 B+6 1BD+1 C+9 4+5 4+1 2+1 3+4 E 1 2+5 B+7 5+1 39 1 1D+3 9+2 150+3F 100+1FF 30+14 2+5 CFDC",
    "337+5 1 A2 10+2 1D 1 1D 1 83 6+3 D413+54 1+46 1+1 2 2+1 2+3 1+B 1 1+6 1+40 1+3 2+7 1+6 1+1B",
    "1+3 1+4 1 3+6 1+153 2+123 2+31 1600+3 1+1A 1+1 1 2 1+9 1+3 1 1 6 4 1 1 1+2 1+1 1 2 1 1 1 1",
    "1+1 1 2+3 1+6 1+3 1+3 1 1+9 1+10 5+2 1+4 1+10 34+1"]),
  (["noncharactercodepoint", "nchar"], [
    "FDD0+1F 20E+1 FFFE+1 FFFE+1 FFFE+1 FFFE+1 FFFE+1 FFFE+1 FFFE+1 FFFE+1 FFFE+1 FFFE+1 FFFE+1",
    "FFFE+1 FFFE+1 FFFE+1 FFFE+1 FFFE+1"]),
  (["otheridcontinue", "oidc"], [
    "B7 2CF FE1+8 668"]),
  (["otheridstart", "oids"], [
    "1885+1 891 15 F6C+1"]),
  (["patternsyntax", "patsyn"], [
    "21+E A+6 1A+3 1 1A+3 22+6 1 1+1 1 1+1 4 4 3 17 1F 1F18+17 8+E 2+12 1+9 131+2CF A0+275 1E+46B",
    "200+7F 181+2 4+18 F CD0D+1 105+1"]),
  (["patternwhitespace", "patws"], [
    "9+4 12 64 1F88+1 18+1"]),
  (["prependedconcatenationmark", "pcm"], [
    "600+5 D7 31 180+1 50 107DA F"]),
  (["quotationmark", "qmark"], [
    "22 4 83 F 1F5C+7 19+1 E07 1C9+3 D+2 CE21+3 BD 4 5A+1"]),
  (["radical"], [
    "2E80+19 1+58 C+D5"]),
  (["regionalindicator", "ri"], [
    "1F1E6+19"]),
  (["sentenceterminal", "sterm"], [
    "21 C 10 549 93+2 B4 2B+2 F6 3D 1 3+1 125+1 6E4+1 316 4+1 305 C6+1 CC 5 13A+1 162+3 AE+1 2+1",
    "1D+1 BC+1 41+1 3BC+1 9+2 DE4 D 16+1 1AD 74FC 10E+1 E3 3 17E+1 56+1 5F 98+1 93+2 90+1 F9 5266",
    "3+1 A9 C 10 41 AF4+1 4FD+4 2C+3 BD+1 75+3 7F+2 81+1 6 10+1 58+1 1+1 6C 1A1+1 175+1 5+E 69+1",
    "F9+2 205 1 FB+1 57+1 1A4+1 2B4+1 4A+1 4B29+1 85 41+1 B 353 4E06 1DE8"]),
  (["softdotted", "sd"], [
    "69+1 C4 119 1E 34 14 140 62 1 1909 33 D 3 84 9D 1A5 D6+1 B32 1A7A5+1 32+1 32+1 32+1 32+1 32+1",
    "32+1 32+1 32+1 32+1 32+1 32+1 32+1 886 131+1 1A"]),
  (["terminalpunctuation", "term"], [
    "21 A 1 B+1 3 33E 8 201 39 48 E 1+2 B4 2B+A 1 EB+1 36+E 1F 105+1 4F4+1 AC 4+5 137+1 315+7 305",
    "7C+2 47+1 9D+2 3 27+3 2+1 13A+1 162+3 AE+1 1+2 1D+1 BC+4 3E+1 3BC+1 9+2 DE4 D 4 A 1+1 3+1",
    "1AC+1 74FB+1 10D+2 E3+4 17E+1 56+1 5F 97+2 93+2 7F 10+1 F9 5264+2 1+3 A9 A 1 B+1 3 41 2 43A",
    "30 486 C7 136+1 98+5 44+5 59+3 3B8+4 2C+3 BD+6 70+3 7F+2 81+1 6 10+1 58+4 6C 1A1+2 C+1 166+3",
    "3+E 69+1 F9+2 205 1 FB+1 57+1 4+1 19E+2 2D 285+1 4A+1 52B+4 45F9+1 85 41+2 A 352+1 4E06",
    "1DE7+3"]),
  (["unifiedideograph", "uideo"], [
    "3400+19BF 40+51FF 5A0E+1 1 1+1 A 1 1+1 2+2 105D6+A6DF 20+1039 6+DD 2+1681 E+1D30 141F+134A",
    "5+105F"]),
  (["variationselector", "vs"], [
    "180B+2 1 E5F0+F D02F0+EF"])]

/-- The scripts that code points with scripts beside their own are written in, and those code points.
-/
def scriptExtensions : List (String × List String) := [
  ("adlam", [
    "61F 20"]),
  ("arabic", [
    "60C E+1 2 20 A+A A+9 6 63 F669+1 B2 A 4E2+1B"]),
  ("bengali", [
    "951+1 11+1 80+9 12E0 1 2+1 1 8 8 2 4 2+2 8BF9"]),
  ("bopomofo", [
    "3001+2 4+9 1+C A+3 2 6 C3 CD49+1 11A+4"]),
  ("buginese", [
    "A9CF"]),
  ("buhid", [
    "1735+1"]),
  ("chakma", [
    "9E6+9 650+9"]),
  ("coptic", [
    "102E0+1B"]),
  ("cypriot", [
    "10100+2 4+2C 3+8"]),
  ("cyprominoan", [
    "10100+1"]),
  ("cyrillic", [
    "483+4 1970 104A 782B"]),
  ("devanagari", [
    "951+1 11+B 1360+26 1+1 3F6 873F+9 B7 1"]),
  ("dogra", [
    "964+B 9EC0+9"]),
  ("duployan", [
    "1BCA0+3"]),
  ("georgian", [
    "10FB"]),
  ("glagolitic", [
    "484 2 29BB 782B"]),
  ("grantha", [
    "951+1 11+1 280+D 10DC 1+1 1E+2 3+1 3F6 F210 1 37+1 C93+1 1"]),
  ("greek", [
    "342 2 1A7A+1"]),
  ("gujarati", [
    "951+1 11+1 180+9 9D40+9"]),
  ("gunjalagondi", [
    "964+1"]),
  ("gurmukhi", [
    "951+1 11+1 100+9 9DC0+9"]),
  ("han", [
    "3001+2 2 1+9 1+C A+3 2 6 4+3 BB 94+F 20+23 3C+27 38+30 F+B 33 58+18 A+4 60+1E 7301+7 573D+1",
    "11A+4 D3FA+11 1EDE+1"]),
  ("hangul", [
    "3001+2 4+9 1+C 10 6 C3 CD49+1 11A+4"]),
  ("hanifirohingya", [
    "60C E 3 20 93"]),
  ("hanunoo", [
    "1735+1"]),
  ("hiragana", [
    "3001+2 4+9 1+C 10+5 1 4+1 5B+3 3 5A+1 CD48+1 11A+4 A 2D+1"]),
  ("javanese", [
    "A9CF"]),
  ("kaithi", [
    "966+9 9EC0+9"]),
  ("kannada", [
    "951+1 11+1 380+9 FE0 1 7 17 1 8B3B+5"]),
  ("katakana", [
    "3001+2 4+9 1+C 10+5 1 4+1 5B+3 3 5A+1 CD48+1 11A+4 A 2D+1"]),
  ("kayahli", [
    "A92E"]),
  ("khojki", [
    "AE6+9 9D40+9"]),
  ("khudawadi", [
    "964+1 9ECA+9"]),
  ("latin", [
    "363+C 115+1 4CA+1 7A8 F33 C0 860F+7 226"]),
  ("limbu", [
    "965"]),
  ("lineara", [
    "10107+2C"]),
  ("linearb", [
    "10100+2 4+2C 3+8"]),
  ("mahajani", [
    "964+B 9EC0+9"]),
  ("malayalam", [
    "951+1 11+1 1374 8B55+2"]),
  ("mandaic", [
    "640"]),
  ("manichaean", [
    "640 104B1"]),
  ("masaramgondi", [
    "964+1"]),
  ("modi", [
    "A830+9"]),
  ("mongolian", [
    "1802+1 1 829"]),
  ("multani", [
    "A66+9"]),
  ("myanmar", [
    "1040+9 98E4"]),
  ("nandinagari", [
    "964+1 380+9 FF9 8 7 8B35+5"]),
  ("nko", [
    "60C E 3 F71E+1"]),
  ("oldpermic", [
    "483"]),
  ("olduyghur", [
    "640 104B1"]),
  ("oriya", [
    "951+1 11+1 1374 17"]),
  ("phagspa", [
    "1802+1 1"]),
  ("psalterpahlavi", [
    "640"]),
  ("sharada", [
    "951 1385 1 2+1 2"]),
  ("sinhala", [
    "964+1"]),
  ("sogdian", [
    "640"]),
  ("sylotinagri", [
    "964+1 80+9"]),
  ("syriac", [
    "60C E+1 2 20 A+A 1A 1787 1"]),
  ("tagalog", [
    "1735+1"]),
  ("tagbanwa", [
    "1735+1"]),
  ("taile", [
    "1040+9"]),
  ("takri", [
    "964+1 9ECA+9"]),
  ("tamil", [
    "951+1 11+1 280+D 10E6 8C18 6A0D 1 37+1 C93+1 1"]),
  ("telugu", [
    "951+1 11+1 1374 17"]),
  ("thaana", [
    "60C E+1 2 40+9 F788 A"]),
  ("tirhuta", [
    "951+1 11+1 138C 8B3D+9"]),
  ("yezidi", [
    "60C E 3 40+9"]),
  ("yi", [
    "3001+1 5+9 2+7 DF CE65+4"])]

end Rulebook.Unicode
