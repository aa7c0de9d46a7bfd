import HomeConsole.Text.Rows

/-!
# Composition of characters

The composed form of a text, NFC, after Unicode 17: characters are taken apart, marks are put in
order, and what has a form of its own is put together again.
-/

namespace HomeConsole.Name

/-- The marks: the first and the last of a few alike, whether they take room of their own, and their
place in the order of marks. -/
def marks : Array (Nat × Nat × Bool × Nat) := #[
  (0x300, 0x314, false, 230), (0x315, 0x315, false, 232), (0x316, 0x319, false, 220),
  (0x31A, 0x31A, false, 232), (0x31B, 0x31B, false, 216), (0x31C, 0x320, false, 220),
  (0x321, 0x322, false, 202), (0x323, 0x326, false, 220), (0x327, 0x328, false, 202),
  (0x329, 0x333, false, 220), (0x334, 0x338, false, 1), (0x339, 0x33C, false, 220),
  (0x33D, 0x346, false, 230), (0x347, 0x349, false, 220), (0x34A, 0x34C, false, 230),
  (0x34D, 0x34E, false, 220), (0x350, 0x352, false, 230), (0x353, 0x356, false, 220),
  (0x357, 0x357, false, 230), (0x358, 0x358, false, 232), (0x359, 0x35A, false, 220),
  (0x35B, 0x35B, false, 230), (0x35C, 0x35C, false, 233), (0x35D, 0x35E, false, 234),
  (0x35F, 0x35F, false, 233), (0x360, 0x361, false, 234), (0x362, 0x362, false, 233),
  (0x363, 0x36F, false, 230), (0x483, 0x487, false, 230), (0x488, 0x489, false, 0),
  (0x591, 0x591, false, 220), (0x592, 0x595, false, 230), (0x596, 0x596, false, 220),
  (0x597, 0x599, false, 230), (0x59A, 0x59A, false, 222), (0x59B, 0x59B, false, 220),
  (0x59C, 0x5A1, false, 230), (0x5A2, 0x5A7, false, 220), (0x5A8, 0x5A9, false, 230),
  (0x5AA, 0x5AA, false, 220), (0x5AB, 0x5AC, false, 230), (0x5AD, 0x5AD, false, 222),
  (0x5AE, 0x5AE, false, 228), (0x5AF, 0x5AF, false, 230), (0x5B0, 0x5B0, false, 10),
  (0x5B1, 0x5B1, false, 11), (0x5B2, 0x5B2, false, 12), (0x5B3, 0x5B3, false, 13),
  (0x5B4, 0x5B4, false, 14), (0x5B5, 0x5B5, false, 15), (0x5B6, 0x5B6, false, 16),
  (0x5B7, 0x5B7, false, 17), (0x5B8, 0x5B8, false, 18), (0x5B9, 0x5BA, false, 19),
  (0x5BB, 0x5BB, false, 20), (0x5BC, 0x5BC, false, 21), (0x5BD, 0x5BD, false, 22),
  (0x5BF, 0x5BF, false, 23), (0x5C1, 0x5C1, false, 24), (0x5C2, 0x5C2, false, 25),
  (0x5C4, 0x5C4, false, 230), (0x5C5, 0x5C5, false, 220), (0x5C7, 0x5C7, false, 18),
  (0x610, 0x617, false, 230), (0x618, 0x618, false, 30), (0x619, 0x619, false, 31),
  (0x61A, 0x61A, false, 32), (0x64B, 0x64B, false, 27), (0x64C, 0x64C, false, 28),
  (0x64D, 0x64D, false, 29), (0x64E, 0x64E, false, 30), (0x64F, 0x64F, false, 31),
  (0x650, 0x650, false, 32), (0x651, 0x651, false, 33), (0x652, 0x652, false, 34),
  (0x653, 0x654, false, 230), (0x655, 0x656, false, 220), (0x657, 0x65B, false, 230),
  (0x65C, 0x65C, false, 220), (0x65D, 0x65E, false, 230), (0x65F, 0x65F, false, 220),
  (0x670, 0x670, false, 35), (0x6D6, 0x6DC, false, 230), (0x6DF, 0x6E2, false, 230),
  (0x6E3, 0x6E3, false, 220), (0x6E4, 0x6E4, false, 230), (0x6E7, 0x6E8, false, 230),
  (0x6EA, 0x6EA, false, 220), (0x6EB, 0x6EC, false, 230), (0x6ED, 0x6ED, false, 220),
  (0x711, 0x711, false, 36), (0x730, 0x730, false, 230), (0x731, 0x731, false, 220),
  (0x732, 0x733, false, 230), (0x734, 0x734, false, 220), (0x735, 0x736, false, 230),
  (0x737, 0x739, false, 220), (0x73A, 0x73A, false, 230), (0x73B, 0x73C, false, 220),
  (0x73D, 0x73D, false, 230), (0x73E, 0x73E, false, 220), (0x73F, 0x741, false, 230),
  (0x742, 0x742, false, 220), (0x743, 0x743, false, 230), (0x744, 0x744, false, 220),
  (0x745, 0x745, false, 230), (0x746, 0x746, false, 220), (0x747, 0x747, false, 230),
  (0x748, 0x748, false, 220), (0x749, 0x74A, false, 230), (0x7A6, 0x7B0, false, 0),
  (0x7EB, 0x7F1, false, 230), (0x7F2, 0x7F2, false, 220), (0x7F3, 0x7F3, false, 230),
  (0x7FD, 0x7FD, false, 220), (0x816, 0x819, false, 230), (0x81B, 0x823, false, 230),
  (0x825, 0x827, false, 230), (0x829, 0x82D, false, 230), (0x859, 0x85B, false, 220),
  (0x897, 0x898, false, 230), (0x899, 0x89B, false, 220), (0x89C, 0x89F, false, 230),
  (0x8CA, 0x8CE, false, 230), (0x8CF, 0x8D3, false, 220), (0x8D4, 0x8E1, false, 230),
  (0x8E3, 0x8E3, false, 220), (0x8E4, 0x8E5, false, 230), (0x8E6, 0x8E6, false, 220),
  (0x8E7, 0x8E8, false, 230), (0x8E9, 0x8E9, false, 220), (0x8EA, 0x8EC, false, 230),
  (0x8ED, 0x8EF, false, 220), (0x8F0, 0x8F0, false, 27), (0x8F1, 0x8F1, false, 28),
  (0x8F2, 0x8F2, false, 29), (0x8F3, 0x8F5, false, 230), (0x8F6, 0x8F6, false, 220),
  (0x8F7, 0x8F8, false, 230), (0x8F9, 0x8FA, false, 220), (0x8FB, 0x8FF, false, 230),
  (0x900, 0x902, false, 0), (0x903, 0x903, true, 0), (0x93A, 0x93A, false, 0),
  (0x93B, 0x93B, true, 0), (0x93C, 0x93C, false, 7), (0x93E, 0x940, true, 0),
  (0x941, 0x948, false, 0), (0x949, 0x94C, true, 0), (0x94D, 0x94D, false, 9),
  (0x94E, 0x94F, true, 0), (0x951, 0x951, false, 230), (0x952, 0x952, false, 220),
  (0x953, 0x954, false, 230), (0x955, 0x957, false, 0), (0x962, 0x963, false, 0),
  (0x981, 0x981, false, 0), (0x982, 0x983, true, 0), (0x9BC, 0x9BC, false, 7),
  (0x9BE, 0x9C0, true, 0), (0x9C1, 0x9C4, false, 0), (0x9C7, 0x9CC, true, 0),
  (0x9CD, 0x9CD, false, 9), (0x9D7, 0x9D7, true, 0), (0x9E2, 0x9E3, false, 0),
  (0x9FE, 0x9FE, false, 230), (0xA01, 0xA02, false, 0), (0xA03, 0xA03, true, 0),
  (0xA3C, 0xA3C, false, 7), (0xA3E, 0xA40, true, 0), (0xA41, 0xA4C, false, 0),
  (0xA4D, 0xA4D, false, 9), (0xA51, 0xA51, false, 0), (0xA70, 0xA71, false, 0),
  (0xA75, 0xA75, false, 0), (0xA81, 0xA82, false, 0), (0xA83, 0xA83, true, 0),
  (0xABC, 0xABC, false, 7), (0xABE, 0xAC0, true, 0), (0xAC1, 0xAC8, false, 0),
  (0xAC9, 0xACC, true, 0), (0xACD, 0xACD, false, 9), (0xAE2, 0xAE3, false, 0),
  (0xAFA, 0xB01, false, 0), (0xB02, 0xB03, true, 0), (0xB3C, 0xB3C, false, 7),
  (0xB3E, 0xB3E, true, 0), (0xB3F, 0xB3F, false, 0), (0xB40, 0xB40, true, 0),
  (0xB41, 0xB44, false, 0), (0xB47, 0xB4C, true, 0), (0xB4D, 0xB4D, false, 9),
  (0xB55, 0xB56, false, 0), (0xB57, 0xB57, true, 0), (0xB62, 0xB63, false, 0),
  (0xB82, 0xB82, false, 0), (0xBBE, 0xBBF, true, 0), (0xBC0, 0xBC0, false, 0),
  (0xBC1, 0xBCC, true, 0), (0xBCD, 0xBCD, false, 9), (0xBD7, 0xBD7, true, 0),
  (0xC00, 0xC00, false, 0), (0xC01, 0xC03, true, 0), (0xC04, 0xC04, false, 0),
  (0xC3C, 0xC3C, false, 7), (0xC3E, 0xC40, false, 0), (0xC41, 0xC44, true, 0),
  (0xC46, 0xC4C, false, 0), (0xC4D, 0xC4D, false, 9), (0xC55, 0xC55, false, 84),
  (0xC56, 0xC56, false, 91), (0xC62, 0xC63, false, 0), (0xC81, 0xC81, false, 0),
  (0xC82, 0xC83, true, 0), (0xCBC, 0xCBC, false, 7), (0xCBE, 0xCCB, true, 0),
  (0xCCC, 0xCCC, false, 0), (0xCCD, 0xCCD, false, 9), (0xCD5, 0xCD6, true, 0),
  (0xCE2, 0xCE3, false, 0), (0xCF3, 0xCF3, true, 0), (0xD00, 0xD01, false, 0),
  (0xD02, 0xD03, true, 0), (0xD3B, 0xD3C, false, 9), (0xD3E, 0xD40, true, 0),
  (0xD41, 0xD44, false, 0), (0xD46, 0xD4C, true, 0), (0xD4D, 0xD4D, false, 9),
  (0xD57, 0xD57, true, 0), (0xD62, 0xD63, false, 0), (0xD81, 0xD81, false, 0),
  (0xD82, 0xD83, true, 0), (0xDCA, 0xDCA, false, 9), (0xDCF, 0xDD1, true, 0),
  (0xDD2, 0xDD6, false, 0), (0xDD8, 0xDDF, true, 0), (0xDF2, 0xDF3, true, 0),
  (0xE31, 0xE31, false, 0), (0xE34, 0xE37, false, 0), (0xE38, 0xE39, false, 103),
  (0xE3A, 0xE3A, false, 9), (0xE47, 0xE47, false, 0), (0xE48, 0xE4B, false, 107),
  (0xE4C, 0xE4E, false, 0), (0xEB1, 0xEB1, false, 0), (0xEB4, 0xEB7, false, 0),
  (0xEB8, 0xEB9, false, 118), (0xEBA, 0xEBA, false, 9), (0xEBB, 0xEBC, false, 0),
  (0xEC8, 0xECB, false, 122), (0xECC, 0xECE, false, 0), (0xF18, 0xF19, false, 220),
  (0xF35, 0xF35, false, 220), (0xF37, 0xF37, false, 220), (0xF39, 0xF39, false, 216),
  (0xF3E, 0xF3F, true, 0), (0xF71, 0xF71, false, 129), (0xF72, 0xF72, false, 130),
  (0xF74, 0xF74, false, 132), (0xF7A, 0xF7D, false, 130), (0xF7E, 0xF7E, false, 0),
  (0xF7F, 0xF7F, true, 0), (0xF80, 0xF80, false, 130), (0xF82, 0xF83, false, 230),
  (0xF84, 0xF84, false, 9), (0xF86, 0xF87, false, 230), (0xF8D, 0xFBC, false, 0),
  (0xFC6, 0xFC6, false, 220), (0x102B, 0x102C, true, 0), (0x102D, 0x1030, false, 0),
  (0x1031, 0x1031, true, 0), (0x1032, 0x1036, false, 0), (0x1037, 0x1037, false, 7),
  (0x1038, 0x1038, true, 0), (0x1039, 0x103A, false, 9), (0x103B, 0x103C, true, 0),
  (0x103D, 0x103E, false, 0), (0x1056, 0x1057, true, 0), (0x1058, 0x1059, false, 0),
  (0x105E, 0x1060, false, 0), (0x1062, 0x1064, true, 0), (0x1067, 0x106D, true, 0),
  (0x1071, 0x1074, false, 0), (0x1082, 0x1082, false, 0), (0x1083, 0x1084, true, 0),
  (0x1085, 0x1086, false, 0), (0x1087, 0x108C, true, 0), (0x108D, 0x108D, false, 220),
  (0x108F, 0x108F, true, 0), (0x109A, 0x109C, true, 0), (0x109D, 0x109D, false, 0),
  (0x135D, 0x135F, false, 230), (0x1712, 0x1713, false, 0), (0x1714, 0x1714, false, 9),
  (0x1715, 0x1715, true, 9), (0x1732, 0x1733, false, 0), (0x1734, 0x1734, true, 9),
  (0x1752, 0x1753, false, 0), (0x1772, 0x1773, false, 0), (0x17B6, 0x17B6, true, 0),
  (0x17B7, 0x17BD, false, 0), (0x17BE, 0x17C5, true, 0), (0x17C6, 0x17C6, false, 0),
  (0x17C7, 0x17C8, true, 0), (0x17C9, 0x17D1, false, 0), (0x17D2, 0x17D2, false, 9),
  (0x17D3, 0x17D3, false, 0), (0x17DD, 0x17DD, false, 230), (0x1885, 0x1886, false, 0),
  (0x18A9, 0x18A9, false, 228), (0x1920, 0x1922, false, 0), (0x1923, 0x1926, true, 0),
  (0x1927, 0x1928, false, 0), (0x1929, 0x1931, true, 0), (0x1932, 0x1932, false, 0),
  (0x1933, 0x1938, true, 0), (0x1939, 0x1939, false, 222), (0x193A, 0x193A, false, 230),
  (0x193B, 0x193B, false, 220), (0x1A17, 0x1A17, false, 230), (0x1A18, 0x1A18, false, 220),
  (0x1A19, 0x1A1A, true, 0), (0x1A1B, 0x1A1B, false, 0), (0x1A55, 0x1A55, true, 0),
  (0x1A56, 0x1A56, false, 0), (0x1A57, 0x1A57, true, 0), (0x1A58, 0x1A5E, false, 0),
  (0x1A60, 0x1A60, false, 9), (0x1A61, 0x1A61, true, 0), (0x1A62, 0x1A62, false, 0),
  (0x1A63, 0x1A64, true, 0), (0x1A65, 0x1A6C, false, 0), (0x1A6D, 0x1A72, true, 0),
  (0x1A73, 0x1A74, false, 0), (0x1A75, 0x1A7C, false, 230), (0x1A7F, 0x1A7F, false, 220),
  (0x1AB0, 0x1AB4, false, 230), (0x1AB5, 0x1ABA, false, 220), (0x1ABB, 0x1ABC, false, 230),
  (0x1ABD, 0x1ABD, false, 220), (0x1ABE, 0x1ABE, false, 0), (0x1ABF, 0x1AC0, false, 220),
  (0x1AC1, 0x1AC2, false, 230), (0x1AC3, 0x1AC4, false, 220), (0x1AC5, 0x1AC9, false, 230),
  (0x1ACA, 0x1ACA, false, 220), (0x1ACB, 0x1ADC, false, 230), (0x1ADD, 0x1ADD, false, 220),
  (0x1AE0, 0x1AE5, false, 230), (0x1AE6, 0x1AE6, false, 220), (0x1AE7, 0x1AEA, false, 230),
  (0x1AEB, 0x1AEB, false, 234), (0x1B00, 0x1B03, false, 0), (0x1B04, 0x1B04, true, 0),
  (0x1B34, 0x1B34, false, 7), (0x1B35, 0x1B35, true, 0), (0x1B36, 0x1B3A, false, 0),
  (0x1B3B, 0x1B3B, true, 0), (0x1B3C, 0x1B3C, false, 0), (0x1B3D, 0x1B41, true, 0),
  (0x1B42, 0x1B42, false, 0), (0x1B43, 0x1B43, true, 0), (0x1B44, 0x1B44, true, 9),
  (0x1B6B, 0x1B6B, false, 230), (0x1B6C, 0x1B6C, false, 220), (0x1B6D, 0x1B73, false, 230),
  (0x1B80, 0x1B81, false, 0), (0x1B82, 0x1B82, true, 0), (0x1BA1, 0x1BA1, true, 0),
  (0x1BA2, 0x1BA5, false, 0), (0x1BA6, 0x1BA7, true, 0), (0x1BA8, 0x1BA9, false, 0),
  (0x1BAA, 0x1BAA, true, 9), (0x1BAB, 0x1BAB, false, 9), (0x1BAC, 0x1BAD, false, 0),
  (0x1BE6, 0x1BE6, false, 7), (0x1BE7, 0x1BE7, true, 0), (0x1BE8, 0x1BE9, false, 0),
  (0x1BEA, 0x1BEC, true, 0), (0x1BED, 0x1BED, false, 0), (0x1BEE, 0x1BEE, true, 0),
  (0x1BEF, 0x1BF1, false, 0), (0x1BF2, 0x1BF3, true, 9), (0x1C24, 0x1C2B, true, 0),
  (0x1C2C, 0x1C33, false, 0), (0x1C34, 0x1C35, true, 0), (0x1C36, 0x1C36, false, 0),
  (0x1C37, 0x1C37, false, 7), (0x1CD0, 0x1CD2, false, 230), (0x1CD4, 0x1CD4, false, 1),
  (0x1CD5, 0x1CD9, false, 220), (0x1CDA, 0x1CDB, false, 230), (0x1CDC, 0x1CDF, false, 220),
  (0x1CE0, 0x1CE0, false, 230), (0x1CE1, 0x1CE1, true, 0), (0x1CE2, 0x1CE8, false, 1),
  (0x1CED, 0x1CED, false, 220), (0x1CF4, 0x1CF4, false, 230), (0x1CF7, 0x1CF7, true, 0),
  (0x1CF8, 0x1CF9, false, 230), (0x1DC0, 0x1DC1, false, 230), (0x1DC2, 0x1DC2, false, 220),
  (0x1DC3, 0x1DC9, false, 230), (0x1DCA, 0x1DCA, false, 220), (0x1DCB, 0x1DCC, false, 230),
  (0x1DCD, 0x1DCD, false, 234), (0x1DCE, 0x1DCE, false, 214), (0x1DCF, 0x1DCF, false, 220),
  (0x1DD0, 0x1DD0, false, 202), (0x1DD1, 0x1DF5, false, 230), (0x1DF6, 0x1DF6, false, 232),
  (0x1DF7, 0x1DF8, false, 228), (0x1DF9, 0x1DF9, false, 220), (0x1DFA, 0x1DFA, false, 218),
  (0x1DFB, 0x1DFB, false, 230), (0x1DFC, 0x1DFC, false, 233), (0x1DFD, 0x1DFD, false, 220),
  (0x1DFE, 0x1DFE, false, 230), (0x1DFF, 0x1DFF, false, 220), (0x20D0, 0x20D1, false, 230),
  (0x20D2, 0x20D3, false, 1), (0x20D4, 0x20D7, false, 230), (0x20D8, 0x20DA, false, 1),
  (0x20DB, 0x20DC, false, 230), (0x20DD, 0x20E0, false, 0), (0x20E1, 0x20E1, false, 230),
  (0x20E2, 0x20E4, false, 0), (0x20E5, 0x20E6, false, 1), (0x20E7, 0x20E7, false, 230),
  (0x20E8, 0x20E8, false, 220), (0x20E9, 0x20E9, false, 230), (0x20EA, 0x20EB, false, 1),
  (0x20EC, 0x20EF, false, 220), (0x20F0, 0x20F0, false, 230), (0x2CEF, 0x2CF1, false, 230),
  (0x2D7F, 0x2D7F, false, 9), (0x2DE0, 0x2DFF, false, 230), (0x302A, 0x302A, false, 218),
  (0x302B, 0x302B, false, 228), (0x302C, 0x302C, false, 232), (0x302D, 0x302D, false, 222),
  (0x302E, 0x302F, true, 224), (0x3099, 0x309A, false, 8), (0xA66F, 0xA66F, false, 230),
  (0xA670, 0xA672, false, 0), (0xA674, 0xA67D, false, 230), (0xA69E, 0xA69F, false, 230),
  (0xA6F0, 0xA6F1, false, 230), (0xA802, 0xA802, false, 0), (0xA806, 0xA806, false, 9),
  (0xA80B, 0xA80B, false, 0), (0xA823, 0xA824, true, 0), (0xA825, 0xA826, false, 0),
  (0xA827, 0xA827, true, 0), (0xA82C, 0xA82C, false, 9), (0xA880, 0xA881, true, 0),
  (0xA8B4, 0xA8C3, true, 0), (0xA8C4, 0xA8C4, false, 9), (0xA8C5, 0xA8C5, false, 0),
  (0xA8E0, 0xA8F1, false, 230), (0xA8FF, 0xA8FF, false, 0), (0xA926, 0xA92A, false, 0),
  (0xA92B, 0xA92D, false, 220), (0xA947, 0xA951, false, 0), (0xA952, 0xA952, true, 0),
  (0xA953, 0xA953, true, 9), (0xA980, 0xA982, false, 0), (0xA983, 0xA983, true, 0),
  (0xA9B3, 0xA9B3, false, 7), (0xA9B4, 0xA9B5, true, 0), (0xA9B6, 0xA9B9, false, 0),
  (0xA9BA, 0xA9BB, true, 0), (0xA9BC, 0xA9BD, false, 0), (0xA9BE, 0xA9BF, true, 0),
  (0xA9C0, 0xA9C0, true, 9), (0xA9E5, 0xA9E5, false, 0), (0xAA29, 0xAA2E, false, 0),
  (0xAA2F, 0xAA30, true, 0), (0xAA31, 0xAA32, false, 0), (0xAA33, 0xAA34, true, 0),
  (0xAA35, 0xAA36, false, 0), (0xAA43, 0xAA43, false, 0), (0xAA4C, 0xAA4C, false, 0),
  (0xAA4D, 0xAA4D, true, 0), (0xAA7B, 0xAA7B, true, 0), (0xAA7C, 0xAA7C, false, 0),
  (0xAA7D, 0xAA7D, true, 0), (0xAAB0, 0xAAB0, false, 230), (0xAAB2, 0xAAB3, false, 230),
  (0xAAB4, 0xAAB4, false, 220), (0xAAB7, 0xAAB8, false, 230), (0xAABE, 0xAABF, false, 230),
  (0xAAC1, 0xAAC1, false, 230), (0xAAEB, 0xAAEB, true, 0), (0xAAEC, 0xAAED, false, 0),
  (0xAAEE, 0xAAEF, true, 0), (0xAAF5, 0xAAF5, true, 0), (0xAAF6, 0xAAF6, false, 9),
  (0xABE3, 0xABE4, true, 0), (0xABE5, 0xABE5, false, 0), (0xABE6, 0xABE7, true, 0),
  (0xABE8, 0xABE8, false, 0), (0xABE9, 0xABEA, true, 0), (0xABEC, 0xABEC, true, 0),
  (0xABED, 0xABED, false, 9), (0xFB1E, 0xFB1E, false, 26), (0xFE20, 0xFE26, false, 230),
  (0xFE27, 0xFE2D, false, 220), (0xFE2E, 0xFE2F, false, 230), (0x101FD, 0x101FD, false, 220),
  (0x102E0, 0x102E0, false, 220), (0x10376, 0x1037A, false, 230), (0x10A01, 0x10A0C, false, 0),
  (0x10A0D, 0x10A0D, false, 220), (0x10A0E, 0x10A0E, false, 0), (0x10A0F, 0x10A0F, false, 230),
  (0x10A38, 0x10A38, false, 230), (0x10A39, 0x10A39, false, 1), (0x10A3A, 0x10A3A, false, 220),
  (0x10A3F, 0x10A3F, false, 9), (0x10AE5, 0x10AE5, false, 230), (0x10AE6, 0x10AE6, false, 220),
  (0x10D24, 0x10D27, false, 230), (0x10D69, 0x10D6D, false, 230), (0x10EAB, 0x10EAC, false, 230),
  (0x10EFA, 0x10EFB, false, 220), (0x10EFC, 0x10EFC, false, 0), (0x10EFD, 0x10EFF, false, 220),
  (0x10F46, 0x10F47, false, 220), (0x10F48, 0x10F4A, false, 230), (0x10F4B, 0x10F4B, false, 220),
  (0x10F4C, 0x10F4C, false, 230), (0x10F4D, 0x10F50, false, 220), (0x10F82, 0x10F82, false, 230),
  (0x10F83, 0x10F83, false, 220), (0x10F84, 0x10F84, false, 230), (0x10F85, 0x10F85, false, 220),
  (0x11000, 0x11000, true, 0), (0x11001, 0x11001, false, 0), (0x11002, 0x11002, true, 0),
  (0x11038, 0x11045, false, 0), (0x11046, 0x11046, false, 9), (0x11070, 0x11070, false, 9),
  (0x11073, 0x11074, false, 0), (0x1107F, 0x1107F, false, 9), (0x11080, 0x11081, false, 0),
  (0x11082, 0x11082, true, 0), (0x110B0, 0x110B2, true, 0), (0x110B3, 0x110B6, false, 0),
  (0x110B7, 0x110B8, true, 0), (0x110B9, 0x110B9, false, 9), (0x110BA, 0x110BA, false, 7),
  (0x110C2, 0x110C2, false, 0), (0x11100, 0x11102, false, 230), (0x11127, 0x1112B, false, 0),
  (0x1112C, 0x1112C, true, 0), (0x1112D, 0x11132, false, 0), (0x11133, 0x11134, false, 9),
  (0x11145, 0x11146, true, 0), (0x11173, 0x11173, false, 7), (0x11180, 0x11181, false, 0),
  (0x11182, 0x11182, true, 0), (0x111B3, 0x111B5, true, 0), (0x111B6, 0x111BE, false, 0),
  (0x111BF, 0x111BF, true, 0), (0x111C0, 0x111C0, true, 9), (0x111C9, 0x111C9, false, 0),
  (0x111CA, 0x111CA, false, 7), (0x111CB, 0x111CC, false, 0), (0x111CE, 0x111CE, true, 0),
  (0x111CF, 0x111CF, false, 0), (0x1122C, 0x1122E, true, 0), (0x1122F, 0x11231, false, 0),
  (0x11232, 0x11233, true, 0), (0x11234, 0x11234, false, 0), (0x11235, 0x11235, true, 9),
  (0x11236, 0x11236, false, 7), (0x11237, 0x11237, false, 0), (0x1123E, 0x1123E, false, 0),
  (0x11241, 0x11241, false, 0), (0x112DF, 0x112DF, false, 0), (0x112E0, 0x112E2, true, 0),
  (0x112E3, 0x112E8, false, 0), (0x112E9, 0x112E9, false, 7), (0x112EA, 0x112EA, false, 9),
  (0x11300, 0x11301, false, 0), (0x11302, 0x11303, true, 0), (0x1133B, 0x1133C, false, 7),
  (0x1133E, 0x1133F, true, 0), (0x11340, 0x11340, false, 0), (0x11341, 0x1134C, true, 0),
  (0x1134D, 0x1134D, true, 9), (0x11357, 0x11357, true, 0), (0x11362, 0x11363, true, 0),
  (0x11366, 0x11374, false, 230), (0x113B8, 0x113BA, true, 0), (0x113BB, 0x113C0, false, 0),
  (0x113C2, 0x113CD, true, 0), (0x113CE, 0x113CE, false, 9), (0x113CF, 0x113CF, true, 9),
  (0x113D0, 0x113D0, false, 9), (0x113D2, 0x113D2, false, 0), (0x113E1, 0x113E2, false, 0),
  (0x11435, 0x11437, true, 0), (0x11438, 0x1143F, false, 0), (0x11440, 0x11441, true, 0),
  (0x11442, 0x11442, false, 9), (0x11443, 0x11444, false, 0), (0x11445, 0x11445, true, 0),
  (0x11446, 0x11446, false, 7), (0x1145E, 0x1145E, false, 230), (0x114B0, 0x114B2, true, 0),
  (0x114B3, 0x114B8, false, 0), (0x114B9, 0x114B9, true, 0), (0x114BA, 0x114BA, false, 0),
  (0x114BB, 0x114BE, true, 0), (0x114BF, 0x114C0, false, 0), (0x114C1, 0x114C1, true, 0),
  (0x114C2, 0x114C2, false, 9), (0x114C3, 0x114C3, false, 7), (0x115AF, 0x115B1, true, 0),
  (0x115B2, 0x115B5, false, 0), (0x115B8, 0x115BB, true, 0), (0x115BC, 0x115BD, false, 0),
  (0x115BE, 0x115BE, true, 0), (0x115BF, 0x115BF, false, 9), (0x115C0, 0x115C0, false, 7),
  (0x115DC, 0x115DD, false, 0), (0x11630, 0x11632, true, 0), (0x11633, 0x1163A, false, 0),
  (0x1163B, 0x1163C, true, 0), (0x1163D, 0x1163D, false, 0), (0x1163E, 0x1163E, true, 0),
  (0x1163F, 0x1163F, false, 9), (0x11640, 0x11640, false, 0), (0x116AB, 0x116AB, false, 0),
  (0x116AC, 0x116AC, true, 0), (0x116AD, 0x116AD, false, 0), (0x116AE, 0x116AF, true, 0),
  (0x116B0, 0x116B5, false, 0), (0x116B6, 0x116B6, true, 9), (0x116B7, 0x116B7, false, 7),
  (0x1171D, 0x1171F, false, 0), (0x11720, 0x11721, true, 0), (0x11722, 0x11725, false, 0),
  (0x11726, 0x11726, true, 0), (0x11727, 0x1172A, false, 0), (0x1172B, 0x1172B, false, 9),
  (0x1182C, 0x1182E, true, 0), (0x1182F, 0x11837, false, 0), (0x11838, 0x11838, true, 0),
  (0x11839, 0x11839, false, 9), (0x1183A, 0x1183A, false, 7), (0x11930, 0x11938, true, 0),
  (0x1193B, 0x1193C, false, 0), (0x1193D, 0x1193D, true, 9), (0x1193E, 0x1193E, false, 9),
  (0x11940, 0x11940, true, 0), (0x11942, 0x11942, true, 0), (0x11943, 0x11943, false, 7),
  (0x119D1, 0x119D3, true, 0), (0x119D4, 0x119DB, false, 0), (0x119DC, 0x119DF, true, 0),
  (0x119E0, 0x119E0, false, 9), (0x119E4, 0x119E4, true, 0), (0x11A01, 0x11A06, false, 0),
  (0x11A07, 0x11A08, true, 0), (0x11A09, 0x11A0A, false, 0), (0x11A33, 0x11A33, false, 0),
  (0x11A34, 0x11A34, false, 9), (0x11A35, 0x11A38, false, 0), (0x11A39, 0x11A39, true, 0),
  (0x11A3B, 0x11A3E, false, 0), (0x11A47, 0x11A47, false, 9), (0x11A51, 0x11A56, false, 0),
  (0x11A57, 0x11A58, true, 0), (0x11A59, 0x11A5B, false, 0), (0x11A8A, 0x11A96, false, 0),
  (0x11A97, 0x11A97, true, 0), (0x11A98, 0x11A98, false, 0), (0x11A99, 0x11A99, false, 9),
  (0x11B60, 0x11B60, false, 0), (0x11B61, 0x11B61, true, 0), (0x11B62, 0x11B64, false, 0),
  (0x11B65, 0x11B65, true, 0), (0x11B66, 0x11B66, false, 0), (0x11B67, 0x11B67, true, 0),
  (0x11C2F, 0x11C2F, true, 0), (0x11C30, 0x11C3D, false, 0), (0x11C3E, 0x11C3E, true, 0),
  (0x11C3F, 0x11C3F, true, 9), (0x11C92, 0x11CA7, false, 0), (0x11CA9, 0x11CA9, true, 0),
  (0x11CAA, 0x11CB0, false, 0), (0x11CB1, 0x11CB1, true, 0), (0x11CB2, 0x11CB3, false, 0),
  (0x11CB4, 0x11CB4, true, 0), (0x11CB5, 0x11CB6, false, 0), (0x11D31, 0x11D41, false, 0),
  (0x11D42, 0x11D42, false, 7), (0x11D43, 0x11D43, false, 0), (0x11D44, 0x11D45, false, 9),
  (0x11D47, 0x11D47, false, 0), (0x11D8A, 0x11D8E, true, 0), (0x11D90, 0x11D91, false, 0),
  (0x11D93, 0x11D94, true, 0), (0x11D95, 0x11D95, false, 0), (0x11D96, 0x11D96, true, 0),
  (0x11D97, 0x11D97, false, 9), (0x11EF3, 0x11EF4, false, 0), (0x11EF5, 0x11EF6, true, 0),
  (0x11F00, 0x11F01, false, 0), (0x11F03, 0x11F03, true, 0), (0x11F34, 0x11F35, true, 0),
  (0x11F36, 0x11F3A, false, 0), (0x11F3E, 0x11F3F, true, 0), (0x11F40, 0x11F40, false, 0),
  (0x11F41, 0x11F41, true, 9), (0x11F42, 0x11F42, false, 9), (0x11F5A, 0x11F5A, false, 0),
  (0x13440, 0x13440, false, 0), (0x13447, 0x13455, false, 0), (0x1611E, 0x16129, false, 0),
  (0x1612A, 0x1612C, true, 0), (0x1612D, 0x1612E, false, 0), (0x1612F, 0x1612F, false, 9),
  (0x16AF0, 0x16AF4, false, 1), (0x16B30, 0x16B36, false, 230), (0x16F4F, 0x16F4F, false, 0),
  (0x16F51, 0x16F87, true, 0), (0x16F8F, 0x16F92, false, 0), (0x16FE4, 0x16FE4, false, 0),
  (0x16FF0, 0x16FF1, true, 6), (0x1BC9D, 0x1BC9D, false, 0), (0x1BC9E, 0x1BC9E, false, 1),
  (0x1CF00, 0x1CF46, false, 0), (0x1D165, 0x1D166, true, 216), (0x1D167, 0x1D169, false, 1),
  (0x1D16D, 0x1D16D, true, 226), (0x1D16E, 0x1D172, true, 216), (0x1D17B, 0x1D182, false, 220),
  (0x1D185, 0x1D189, false, 230), (0x1D18A, 0x1D18B, false, 220), (0x1D1AA, 0x1D1AD, false, 230),
  (0x1D242, 0x1D244, false, 230), (0x1DA00, 0x1DA36, false, 0), (0x1DA3B, 0x1DA6C, false, 0),
  (0x1DA75, 0x1DA75, false, 0), (0x1DA84, 0x1DA84, false, 0), (0x1DA9B, 0x1DAAF, false, 0),
  (0x1E000, 0x1E08F, false, 230), (0x1E130, 0x1E136, false, 230), (0x1E2AE, 0x1E2AE, false, 230),
  (0x1E2EC, 0x1E2EF, false, 230), (0x1E4EC, 0x1E4ED, false, 232), (0x1E4EE, 0x1E4EE, false, 220),
  (0x1E4EF, 0x1E4EF, false, 230), (0x1E5EE, 0x1E5EE, false, 230), (0x1E5EF, 0x1E5EF, false, 220),
  (0x1E6E3, 0x1E6E3, false, 230), (0x1E6E6, 0x1E6E6, false, 230), (0x1E6EE, 0x1E6EF, false, 230),
  (0x1E6F5, 0x1E6F5, false, 230), (0x1E8D0, 0x1E8D6, false, 220), (0x1E944, 0x1E949, false, 230),
  (0x1E94A, 0x1E94A, false, 7)]

/-- The second parts of composed characters, each with first parts and what these make with it. -/
def compositions : List (Nat × String) := [
  (0x300, "AÀEÈIÌOÒUÙaàeèiìoòuùÜǛüǜNǸnǹЕЀИЍеѐиѝĒḔēḕŌṐōṑWẀwẁÂẦâầĂẰăằÊỀêềÔỒôồƠỜơờƯỪưừYỲyỳἀἂἁἃἈἊἉἋἐἒ" ++
    "ἑἓἘἚἙἛἠἢἡἣἨἪἩἫἰἲἱἳἸἺἹἻὀὂὁὃὈὊὉὋὐὒὑὓὙὛὠὢὡὣὨὪὩὫαὰεὲηὴιὶοὸυὺωὼΑᾺΕῈΗῊ᾿῍ϊῒΙῚ῾῝ϋῢΥῪ¨῭ΟῸΩῺ"),
  (0x301, "AÁEÉIÍOÓUÚYÝaáeéiíoóuúyýCĆcćLĹlĺNŃnńRŔrŕSŚsśZŹzźÜǗüǘGǴgǵÅǺåǻÆǼæǽØǾøǿ¨΅ΑΆΕΈΗΉΙΊΟΌΥΎΩΏϊΐ" ++
    "αάεέηήιίϋΰοόυύωώϒϓГЃКЌгѓкќÇḈçḉĒḖēḗÏḮïḯKḰkḱMḾmḿÕṌõṍŌṒōṓPṔpṕŨṸũṹWẂwẃÂẤâấĂẮăắÊẾêếÔỐôốƠỚơớƯỨưứἀἄἁ" ++
    "ἅἈἌἉἍἐἔἑἕἘἜἙἝἠἤἡἥἨἬἩἭἰἴἱἵἸἼἹἽὀὄὁὅὈὌὉὍὐὔὑὕὙὝὠὤὡὥὨὬὩὭ᾿῎῾῞"),
  (0x302, "AÂEÊIÎOÔUÛaâeêiîoôuûCĈcĉGĜgĝHĤhĥJĴjĵSŜsŝWŴwŵYŶyŷZẐzẑẠẬạậẸỆẹệỌỘọộ"),
  (0x303, "AÃNÑOÕaãnñoõIĨiĩUŨuũVṼvṽÂẪâẫĂẴăẵEẼeẽÊỄêễÔỖôỗƠỠơỡƯỮưữYỸyỹ"),
  (0x304, "AĀaāEĒeēIĪiīOŌoōUŪuūÜǕüǖÄǞäǟȦǠȧǡÆǢæǣǪǬǫǭÖȪöȫÕȬõȭȮȰȯȱYȲyȳИӢиӣУӮуӯGḠgḡḶḸḷḹṚṜṛṝαᾱΑᾹιῑΙῙυῡ" ++
    "ΥῩ"),
  (0x306, "AĂaăEĔeĕGĞgğIĬiĭOŎoŏUŬuŭУЎИЙийуўЖӁжӂАӐаӑЕӖеӗȨḜȩḝẠẶạặαᾰΑᾸιῐΙῘυῠΥῨ"),
  (0x307, "CĊcċEĖeėGĠgġIİZŻzżAȦaȧOȮoȯBḂbḃDḊdḋFḞfḟHḢhḣMṀmṁNṄnṅPṖpṗRṘrṙSṠsṡŚṤśṥŠṦšṧṢṨṣṩTṪtṫWẆwẇXẊxẋ" ++
    "YẎyẏſẛ𐗒𐗉𐗚𐗤"),
  (0x308, "AÄEËIÏOÖUÜaäeëiïoöuüyÿYŸΙΪΥΫιϊυϋϒϔЕЁІЇеёіїАӒаӓӘӚәӛЖӜжӝЗӞзӟИӤиӥОӦоӧӨӪөӫЭӬэӭУӰуӱЧӴчӵЫӸыӹ" ++
    "HḦhḧÕṎõṏŪṺūṻWẄwẅXẌxẍtẗ"),
  (0x309, "AẢaảÂẨâẩĂẲăẳEẺeẻÊỂêểIỈiỉOỎoỏÔỔôổƠỞơởUỦuủƯỬưửYỶyỷ"),
  (0x30A, "AÅaåUŮuůwẘyẙ"),
  (0x30B, "OŐoőUŰuűУӲуӳ"),
  (0x30C, "CČcčDĎdďEĚeěLĽlľNŇnňRŘrřSŠsšTŤtťZŽzžAǍaǎIǏiǐOǑoǒUǓuǔÜǙüǚGǦgǧKǨkǩƷǮʒǯjǰHȞhȟ"),
  (0x30F, "AȀaȁEȄeȅIȈiȉOȌoȍRȐrȑUȔuȕѴѶѵѷ"),
  (0x311, "AȂaȃEȆeȇIȊiȋOȎoȏRȒrȓUȖuȗ"),
  (0x313, "αἀΑἈεἐΕἘηἠΗἨιἰΙἸοὀΟὈυὐωὠΩὨρῤ"),
  (0x314, "αἁΑἉεἑΕἙηἡΗἩιἱΙἹοὁΟὉυὑΥὙωὡΩὩρῥΡῬ"),
  (0x31B, "OƠoơUƯuư"),
  (0x323, "BḄbḅDḌdḍHḤhḥKḲkḳLḶlḷMṂmṃNṆnṇRṚrṛSṢsṣTṬtṭVṾvṿWẈwẉZẒzẓAẠaạEẸeẹIỊiịOỌoọƠỢơợUỤuụƯỰưựYỴyỵ"),
  (0x324, "UṲuṳ"),
  (0x325, "AḀaḁ"),
  (0x326, "SȘsșTȚtț"),
  (0x327, "CÇcçGĢgģKĶkķLĻlļNŅnņRŖrŗSŞsşTŢtţEȨeȩDḐdḑHḨhḩ"),
  (0x328, "AĄaąEĘeęIĮiįUŲuųOǪoǫ"),
  (0x32D, "DḒdḓEḘeḙLḼlḽNṊnṋTṰtṱUṶuṷ"),
  (0x32E, "HḪhḫ"),
  (0x330, "EḚeḛIḬiḭUṴuṵ"),
  (0x331, "BḆbḇDḎdḏKḴkḵLḺlḻNṈnṉRṞrṟTṮtṯZẔzẕhẖ"),
  (0x338, "←↚→↛↔↮⇐⇍⇔⇎⇒⇏∃∄∈∉∋∌∣∤∥∦∼≁≃≄≅≇≈≉=≠≡≢≍≭<≮>≯≤≰≥≱≲≴≳≵≶≸≷≹≺⊀≻⊁⊂⊄⊃⊅⊆⊈⊇⊉⊢⊬⊨⊭⊩⊮⊫⊯≼⋠≽⋡⊑⋢⊒⋣⊲⋪⊳⋫⊴⋬" ++
    "⊵⋭"),
  (0x342, "ἀἆἁἇἈἎἉἏἠἦἡἧἨἮἩἯἰἶἱἷἸἾἹἿὐὖὑὗὙὟὠὦὡὧὨὮὩὯαᾶ¨῁ηῆ᾿῏ιῖϊῗ῾῟υῦϋῧωῶ"),
  (0x345, "ἀᾀἁᾁἂᾂἃᾃἄᾄἅᾅἆᾆἇᾇἈᾈἉᾉἊᾊἋᾋἌᾌἍᾍἎᾎἏᾏἠᾐἡᾑἢᾒἣᾓἤᾔἥᾕἦᾖἧᾗἨᾘἩᾙἪᾚἫᾛἬᾜἭᾝἮᾞἯᾟὠᾠὡᾡὢᾢὣᾣὤᾤὥᾥὦᾦὧᾧὨᾨὩᾩὪᾪ" ++
    "ὫᾫὬᾬὭᾭὮᾮὯᾯὰᾲαᾳάᾴᾶᾷΑᾼὴῂηῃήῄῆῇΗῌὼῲωῳώῴῶῷΩῼ"),
  (0x653, "\u0627\u0622"),
  (0x654, "\u0627\u0623\u0648\u0624\u064A\u0626\u06D5\u06C0\u06C1\u06C2\u06D2\u06D3"),
  (0x655, "\u0627\u0625"),
  (0x93C, "नऩरऱळऴ"),
  (0x9BE, "\u09C7\u09CB"),
  (0x9D7, "\u09C7\u09CC"),
  (0xB3E, "\u0B47\u0B4B"),
  (0xB56, "\u0B47\u0B48"),
  (0xB57, "\u0B47\u0B4C"),
  (0xBBE, "\u0BC6\u0BCA\u0BC7\u0BCB"),
  (0xBD7, "ஒஔ\u0BC6\u0BCC"),
  (0xC56, "\u0C46\u0C48"),
  (0xCC2, "\u0CC6\u0CCA"),
  (0xCD5, "\u0CBF\u0CC0\u0CC6\u0CC7\u0CCA\u0CCB"),
  (0xCD6, "\u0CC6\u0CC8"),
  (0xD3E, "\u0D46\u0D4A\u0D47\u0D4B"),
  (0xD57, "\u0D46\u0D4C"),
  (0xDCA, "\u0DD9\u0DDA\u0DDC\u0DDD"),
  (0xDCF, "\u0DD9\u0DDC"),
  (0xDDF, "\u0DD9\u0DDE"),
  (0x102E, "ဥဦ"),
  (0x1B35, "ᬅᬆᬇᬈᬉᬊᬋᬌᬍᬎᬑᬒ\u1B3A\u1B3B\u1B3C\u1B3D\u1B3E\u1B40\u1B3F\u1B41\u1B42\u1B43"),
  (0x3099, "かがきぎくぐけげこごさざしじすずせぜそぞただちぢつづてでとどはばひびふぶへべほぼうゔゝゞカガキギクグケゲコゴサザシジスズセゼソゾタダチヂツヅテデトドハバヒビフブヘベホボウ" ++
    "ヴワヷヰヸヱヹヲヺヽヾ"),
  (0x309A, "はぱひぴふぷへぺほぽハパヒピフプヘペホポ"),
  (0x110BA, "𑂙𑂚𑂛𑂜𑂥𑂫"),
  (0x11127, "𑄱𑄮𑄲𑄯"),
  (0x1133E, "𑍇𑍋"),
  (0x11357, "𑍇𑍌"),
  (0x113B8, "𑏅𑎸"),
  (0x113BB, "𑎄𑎅"),
  (0x113C2, "𑎋𑎎𑏅𑏂"),
  (0x113C9, "𑎂𑎃𑎐𑎑𑏅𑏉"),
  (0x114B0, "𑒹𑒼"),
  (0x114BA, "𑒹𑒻"),
  (0x114BD, "𑒹𑒾"),
  (0x115AF, "𑖸𑖺𑖹𑖻"),
  (0x11930, "𑤵𑤸"),
  (0x1611E, "𖄡𖄞"),
  (0x1611F, "𖄦𖄩𖄤𖄡𖄦𖄢𖄧"),
  (0x16120, "𖄨𖄡𖄨"),
  (0x16129, "𖄡𖄩"),
  (0x16D67, "𖵨𖵧𖵣𖵩𖵩𖵪")]

/-! ## Marks -/

/-- Whether a character is a mark. -/
def isMark (c : Char) : Bool := 0x300 ≤ c.toNat && (valueAt? marks c.toNat).isSome

/-- Whether a character is a mark that takes no room of its own. -/
def isDrawnOver (c : Char) : Bool :=
  0x300 ≤ c.toNat && ((valueAt? marks c.toNat).map (·.1)) == some false

/-- The place of a character in the order of marks, which is 0 for what is not moved. -/
def order (c : Char) : Nat :=
  if c.toNat < 0x300 then 0 else ((valueAt? marks c.toNat).map (·.2)).getD 0

/-! ## Hangul -/

/-- The syllable of a consonant with a vowel, or of such a one with a final consonant. -/
def syllable? (a b : Char) : Option Char :=
  let first := a.toNat
  let second := b.toNat
  if 0x1100 ≤ first ∧ first ≤ 0x1112 ∧ 0x1161 ≤ second ∧ second ≤ 0x1175 then
    some (Char.ofNat (0xAC00 + ((first - 0x1100) * 21 + (second - 0x1161)) * 28))
  else if (0xAC00 ≤ first ∧ first ≤ 0xD7A3 ∧ (first - 0xAC00) % 28 = 0) ∧
      (0x11A8 ≤ second ∧ second ≤ 0x11C2) then
    some (Char.ofNat (first + (second - 0x11A7)))
  else none

/-- The two parts of a syllable. -/
def syllableParts? (c : Char) : Option (Char × Char) :=
  let n := c.toNat - 0xAC00
  if c.toNat < 0xAC00 ∨ 0xD7A3 < c.toNat then none
  else if n % 28 = 0 then
    some (Char.ofNat (0x1100 + n / 588), Char.ofNat (0x1161 + n % 588 / 28))
  else some (Char.ofNat (c.toNat - n % 28), Char.ofNat (0x11A7 + n % 28))

/-! ## Composed characters -/

/-- The characters of a row two by two. -/
def twos : List Char → List (Char × Char)
  | a :: b :: rest => (a, b) :: twos rest
  | _ => []

/-- The character that two make. -/
def composed? (a b : Char) : Option Char :=
  if b.toNat < 0x300 then none
  else
    (syllable? a b).or
      ((compositions.find? (·.1 == b.toNat)).bind fun (_, row) =>
        ((twos row.toList).find? (·.1 == a)).map (·.2))

/-- The two parts of a composed character. -/
def parts? (c : Char) : Option (Char × Char) :=
  if c.toNat < 0xC0 then none
  else
    (syllableParts? c).or
      (compositions.findSome? fun (second, row) =>
        ((twos row.toList).find? (·.2 == c)).map fun (first, _) => (first, Char.ofNat second))

/-- A character taken apart, in so many steps at most. -/
def apart : Nat → Char → List Char
  | 0, c => [c]
  | steps + 1, c =>
    match parts? c with
    | none => [c]
    | some (first, second) => apart steps first ++ [second]

/-- Puts a character before a text, behind the marks there that go before it. -/
def put (c : Char) : List Char → List Char
  | [] => [c]
  | d :: ds => if 0 < order d ∧ order d < order c then d :: put c ds else c :: d :: ds

/-- A text taken apart, with its marks in order. No character has more than four parts. -/
def takenApart (cs : List Char) : List Char := (cs.flatMap (apart 3)).foldr put []

/-- Puts together what follows a character that marks can join; `kept` holds those before that did
not join it, the last one first. One joins only past those that go before it. -/
def absorb (base : Char) (kept : List Char) : List Char → List Char
  | [] => base :: kept.reverse
  | d :: ds =>
    let isNear := kept.all (order · < order d)
    match if isNear then composed? base d else none with
    | some made => absorb made kept ds
    | none =>
      if order d = 0 then base :: (kept.reverse ++ absorb d [] ds)
      else absorb base (d :: kept) ds

/-- A text that was taken apart put together again. -/
def putTogether : List Char → List Char
  | [] => []
  | c :: cs => if order c = 0 then absorb c [] cs else c :: putTogether cs

/-- The composed form of a text. -/
def compose (cs : List Char) : List Char := putTogether (takenApart cs)

end HomeConsole.Name
