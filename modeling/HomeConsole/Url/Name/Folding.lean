import HomeConsole.Text.Ranges
import HomeConsole.Text.Rows

/-!
# Folding of names

What the characters of the name of a host are folded to, after the mapping of UTS 46 for names on
the web: letters to lower case, compatibility forms to plain ones, some to nothing. The tables are
those of Unicode 17 and begin behind ASCII.
-/

namespace HomeConsole.Name

/-- The characters that a name may be given with. Forms of the blank are not among them. -/
def known : Ranges := #[
  (0xA1, 0xA7), (0xA9, 0xAE), (0xB0, 0xB3), (0xB5, 0xB7), (0xB9, 0x2D7), (0x2DE, 0x377),
  (0x37B, 0x37F), (0x386, 0x38A), (0x38C, 0x38C), (0x38E, 0x3A1), (0x3A3, 0x52F), (0x531, 0x556),
  (0x559, 0x58A), (0x58D, 0x58F), (0x591, 0x5C7), (0x5D0, 0x5EA), (0x5EF, 0x5F4), (0x606, 0x61B),
  (0x61D, 0x6DC), (0x6DE, 0x70D), (0x710, 0x74A), (0x74D, 0x7B1), (0x7C0, 0x7FA), (0x7FD, 0x82D),
  (0x830, 0x83E), (0x840, 0x85B), (0x85E, 0x85E), (0x860, 0x86A), (0x870, 0x88F), (0x897, 0x8E1),
  (0x8E3, 0x983), (0x985, 0x98C), (0x98F, 0x990), (0x993, 0x9A8), (0x9AA, 0x9B0), (0x9B2, 0x9B2),
  (0x9B6, 0x9B9), (0x9BC, 0x9C4), (0x9C7, 0x9C8), (0x9CB, 0x9CE), (0x9D7, 0x9D7), (0x9DC, 0x9DD),
  (0x9DF, 0x9E3), (0x9E6, 0x9FE), (0xA01, 0xA03), (0xA05, 0xA0A), (0xA0F, 0xA10), (0xA13, 0xA28),
  (0xA2A, 0xA30), (0xA32, 0xA33), (0xA35, 0xA36), (0xA38, 0xA39), (0xA3C, 0xA3C), (0xA3E, 0xA42),
  (0xA47, 0xA48), (0xA4B, 0xA4D), (0xA51, 0xA51), (0xA59, 0xA5C), (0xA5E, 0xA5E), (0xA66, 0xA76),
  (0xA81, 0xA83), (0xA85, 0xA8D), (0xA8F, 0xA91), (0xA93, 0xAA8), (0xAAA, 0xAB0), (0xAB2, 0xAB3),
  (0xAB5, 0xAB9), (0xABC, 0xAC5), (0xAC7, 0xAC9), (0xACB, 0xACD), (0xAD0, 0xAD0), (0xAE0, 0xAE3),
  (0xAE6, 0xAF1), (0xAF9, 0xAFF), (0xB01, 0xB03), (0xB05, 0xB0C), (0xB0F, 0xB10), (0xB13, 0xB28),
  (0xB2A, 0xB30), (0xB32, 0xB33), (0xB35, 0xB39), (0xB3C, 0xB44), (0xB47, 0xB48), (0xB4B, 0xB4D),
  (0xB55, 0xB57), (0xB5C, 0xB5D), (0xB5F, 0xB63), (0xB66, 0xB77), (0xB82, 0xB83), (0xB85, 0xB8A),
  (0xB8E, 0xB90), (0xB92, 0xB95), (0xB99, 0xB9A), (0xB9C, 0xB9C), (0xB9E, 0xB9F), (0xBA3, 0xBA4),
  (0xBA8, 0xBAA), (0xBAE, 0xBB9), (0xBBE, 0xBC2), (0xBC6, 0xBC8), (0xBCA, 0xBCD), (0xBD0, 0xBD0),
  (0xBD7, 0xBD7), (0xBE6, 0xBFA), (0xC00, 0xC0C), (0xC0E, 0xC10), (0xC12, 0xC28), (0xC2A, 0xC39),
  (0xC3C, 0xC44), (0xC46, 0xC48), (0xC4A, 0xC4D), (0xC55, 0xC56), (0xC58, 0xC5A), (0xC5C, 0xC5D),
  (0xC60, 0xC63), (0xC66, 0xC6F), (0xC77, 0xC8C), (0xC8E, 0xC90), (0xC92, 0xCA8), (0xCAA, 0xCB3),
  (0xCB5, 0xCB9), (0xCBC, 0xCC4), (0xCC6, 0xCC8), (0xCCA, 0xCCD), (0xCD5, 0xCD6), (0xCDC, 0xCDE),
  (0xCE0, 0xCE3), (0xCE6, 0xCEF), (0xCF1, 0xCF3), (0xD00, 0xD0C), (0xD0E, 0xD10), (0xD12, 0xD44),
  (0xD46, 0xD48), (0xD4A, 0xD4F), (0xD54, 0xD63), (0xD66, 0xD7F), (0xD81, 0xD83), (0xD85, 0xD96),
  (0xD9A, 0xDB1), (0xDB3, 0xDBB), (0xDBD, 0xDBD), (0xDC0, 0xDC6), (0xDCA, 0xDCA), (0xDCF, 0xDD4),
  (0xDD6, 0xDD6), (0xDD8, 0xDDF), (0xDE6, 0xDEF), (0xDF2, 0xDF4), (0xE01, 0xE3A), (0xE3F, 0xE5B),
  (0xE81, 0xE82), (0xE84, 0xE84), (0xE86, 0xE8A), (0xE8C, 0xEA3), (0xEA5, 0xEA5), (0xEA7, 0xEBD),
  (0xEC0, 0xEC4), (0xEC6, 0xEC6), (0xEC8, 0xECE), (0xED0, 0xED9), (0xEDC, 0xEDF), (0xF00, 0xF47),
  (0xF49, 0xF6C), (0xF71, 0xF97), (0xF99, 0xFBC), (0xFBE, 0xFCC), (0xFCE, 0xFDA),
  (0x1000, 0x10C5), (0x10C7, 0x10C7), (0x10CD, 0x10CD), (0x10D0, 0x1248), (0x124A, 0x124D),
  (0x1250, 0x1256), (0x1258, 0x1258), (0x125A, 0x125D), (0x1260, 0x1288), (0x128A, 0x128D),
  (0x1290, 0x12B0), (0x12B2, 0x12B5), (0x12B8, 0x12BE), (0x12C0, 0x12C0), (0x12C2, 0x12C5),
  (0x12C8, 0x12D6), (0x12D8, 0x1310), (0x1312, 0x1315), (0x1318, 0x135A), (0x135D, 0x137C),
  (0x1380, 0x1399), (0x13A0, 0x13F5), (0x13F8, 0x13FD), (0x1400, 0x167F), (0x1681, 0x169C),
  (0x16A0, 0x16F8), (0x1700, 0x1715), (0x171F, 0x1736), (0x1740, 0x1753), (0x1760, 0x176C),
  (0x176E, 0x1770), (0x1772, 0x1773), (0x1780, 0x17DD), (0x17E0, 0x17E9), (0x17F0, 0x17F9),
  (0x1800, 0x1819), (0x1820, 0x1878), (0x1880, 0x18AA), (0x18B0, 0x18F5), (0x1900, 0x191E),
  (0x1920, 0x192B), (0x1930, 0x193B), (0x1940, 0x1940), (0x1944, 0x196D), (0x1970, 0x1974),
  (0x1980, 0x19AB), (0x19B0, 0x19C9), (0x19D0, 0x19DA), (0x19DE, 0x1A1B), (0x1A1E, 0x1A5E),
  (0x1A60, 0x1A7C), (0x1A7F, 0x1A89), (0x1A90, 0x1A99), (0x1AA0, 0x1AAD), (0x1AB0, 0x1ADD),
  (0x1AE0, 0x1AEB), (0x1B00, 0x1B4C), (0x1B4E, 0x1BF3), (0x1BFC, 0x1C37), (0x1C3B, 0x1C49),
  (0x1C4D, 0x1C8A), (0x1C90, 0x1CBA), (0x1CBD, 0x1CC7), (0x1CD0, 0x1CFA), (0x1D00, 0x1F15),
  (0x1F18, 0x1F1D), (0x1F20, 0x1F45), (0x1F48, 0x1F4D), (0x1F50, 0x1F57), (0x1F59, 0x1F59),
  (0x1F5B, 0x1F5B), (0x1F5D, 0x1F5D), (0x1F5F, 0x1F7D), (0x1F80, 0x1FB4), (0x1FB6, 0x1FBC),
  (0x1FBE, 0x1FBE), (0x1FC2, 0x1FC4), (0x1FC6, 0x1FCC), (0x1FD0, 0x1FD3), (0x1FD6, 0x1FDB),
  (0x1FE0, 0x1FEC), (0x1FEF, 0x1FEF), (0x1FF2, 0x1FF4), (0x1FF6, 0x1FFC), (0x200B, 0x200D),
  (0x2010, 0x2016), (0x2018, 0x2023), (0x2027, 0x2027), (0x2030, 0x203D), (0x203F, 0x205E),
  (0x2060, 0x2064), (0x206A, 0x2071), (0x2074, 0x208E), (0x2090, 0x209C), (0x20A0, 0x20C1),
  (0x20D0, 0x20F0), (0x2100, 0x218B), (0x2190, 0x2429), (0x2440, 0x244A), (0x2460, 0x2487),
  (0x249C, 0x2B73), (0x2B76, 0x2CF3), (0x2CF9, 0x2D25), (0x2D27, 0x2D27), (0x2D2D, 0x2D2D),
  (0x2D30, 0x2D67), (0x2D6F, 0x2D70), (0x2D7F, 0x2D96), (0x2DA0, 0x2DA6), (0x2DA8, 0x2DAE),
  (0x2DB0, 0x2DB6), (0x2DB8, 0x2DBE), (0x2DC0, 0x2DC6), (0x2DC8, 0x2DCE), (0x2DD0, 0x2DD6),
  (0x2DD8, 0x2DDE), (0x2DE0, 0x2E5D), (0x2E80, 0x2E99), (0x2E9B, 0x2EF3), (0x2F00, 0x2FD5),
  (0x3001, 0x303F), (0x3041, 0x3096), (0x3099, 0x309A), (0x309D, 0x30FF), (0x3105, 0x312F),
  (0x3131, 0x318E), (0x3190, 0x31E5), (0x31F0, 0x321E), (0x3220, 0x33C1), (0x33C3, 0x33C6),
  (0x33C8, 0x33D7), (0x33D9, 0xA48C), (0xA490, 0xA4C6), (0xA4D0, 0xA62B), (0xA640, 0xA6F7),
  (0xA700, 0xA7DC), (0xA7F1, 0xA82C), (0xA830, 0xA839), (0xA840, 0xA877), (0xA880, 0xA8C5),
  (0xA8CE, 0xA8D9), (0xA8E0, 0xA953), (0xA95F, 0xA97C), (0xA980, 0xA9CD), (0xA9CF, 0xA9D9),
  (0xA9DE, 0xA9FE), (0xAA00, 0xAA36), (0xAA40, 0xAA4D), (0xAA50, 0xAA59), (0xAA5C, 0xAAC2),
  (0xAADB, 0xAAF6), (0xAB01, 0xAB06), (0xAB09, 0xAB0E), (0xAB11, 0xAB16), (0xAB20, 0xAB26),
  (0xAB28, 0xAB2E), (0xAB30, 0xAB6B), (0xAB70, 0xABED), (0xABF0, 0xABF9), (0xAC00, 0xD7A3),
  (0xD7B0, 0xD7C6), (0xD7CB, 0xD7FB), (0xF900, 0xFA6D), (0xFA70, 0xFAD9), (0xFB00, 0xFB06),
  (0xFB13, 0xFB17), (0xFB1D, 0xFB36), (0xFB38, 0xFB3C), (0xFB3E, 0xFB3E), (0xFB40, 0xFB41),
  (0xFB43, 0xFB44), (0xFB46, 0xFC5D), (0xFC64, 0xFDCF), (0xFDF0, 0xFDF9), (0xFDFC, 0xFE11),
  (0xFE13, 0xFE18), (0xFE20, 0xFE2F), (0xFE31, 0xFE48), (0xFE4D, 0xFE51), (0xFE54, 0xFE66),
  (0xFE68, 0xFE6B), (0xFE71, 0xFE71), (0xFE73, 0xFE73), (0xFE77, 0xFE77), (0xFE79, 0xFE79),
  (0xFE7B, 0xFE7B), (0xFE7D, 0xFE7D), (0xFE7F, 0xFEFC), (0xFEFF, 0xFEFF), (0xFF01, 0xFFBE),
  (0xFFC2, 0xFFC7), (0xFFCA, 0xFFCF), (0xFFD2, 0xFFD7), (0xFFDA, 0xFFDC), (0xFFE0, 0xFFE2),
  (0xFFE4, 0xFFE6), (0xFFE8, 0xFFEE), (0x10000, 0x1000B), (0x1000D, 0x10026), (0x10028, 0x1003A),
  (0x1003C, 0x1003D), (0x1003F, 0x1004D), (0x10050, 0x1005D), (0x10080, 0x100FA),
  (0x10100, 0x10102), (0x10107, 0x10133), (0x10137, 0x1018E), (0x10190, 0x1019C),
  (0x101A0, 0x101A0), (0x101D0, 0x101FD), (0x10280, 0x1029C), (0x102A0, 0x102D0),
  (0x102E0, 0x102FB), (0x10300, 0x10323), (0x1032D, 0x1034A), (0x10350, 0x1037A),
  (0x10380, 0x1039D), (0x1039F, 0x103C3), (0x103C8, 0x103D5), (0x10400, 0x1049D),
  (0x104A0, 0x104A9), (0x104B0, 0x104D3), (0x104D8, 0x104FB), (0x10500, 0x10527),
  (0x10530, 0x10563), (0x1056F, 0x1057A), (0x1057C, 0x1058A), (0x1058C, 0x10592),
  (0x10594, 0x10595), (0x10597, 0x105A1), (0x105A3, 0x105B1), (0x105B3, 0x105B9),
  (0x105BB, 0x105BC), (0x105C0, 0x105F3), (0x10600, 0x10736), (0x10740, 0x10755),
  (0x10760, 0x10767), (0x10780, 0x10785), (0x10787, 0x107B0), (0x107B2, 0x107BA),
  (0x10800, 0x10805), (0x10808, 0x10808), (0x1080A, 0x10835), (0x10837, 0x10838),
  (0x1083C, 0x1083C), (0x1083F, 0x10855), (0x10857, 0x1089E), (0x108A7, 0x108AF),
  (0x108E0, 0x108F2), (0x108F4, 0x108F5), (0x108FB, 0x1091B), (0x1091F, 0x10939),
  (0x1093F, 0x10959), (0x10980, 0x109B7), (0x109BC, 0x109CF), (0x109D2, 0x10A03),
  (0x10A05, 0x10A06), (0x10A0C, 0x10A13), (0x10A15, 0x10A17), (0x10A19, 0x10A35),
  (0x10A38, 0x10A3A), (0x10A3F, 0x10A48), (0x10A50, 0x10A58), (0x10A60, 0x10A9F),
  (0x10AC0, 0x10AE6), (0x10AEB, 0x10AF6), (0x10B00, 0x10B35), (0x10B39, 0x10B55),
  (0x10B58, 0x10B72), (0x10B78, 0x10B91), (0x10B99, 0x10B9C), (0x10BA9, 0x10BAF),
  (0x10C00, 0x10C48), (0x10C80, 0x10CB2), (0x10CC0, 0x10CF2), (0x10CFA, 0x10D27),
  (0x10D30, 0x10D39), (0x10D40, 0x10D65), (0x10D69, 0x10D85), (0x10D8E, 0x10D8F),
  (0x10E60, 0x10E7E), (0x10E80, 0x10EA9), (0x10EAB, 0x10EAD), (0x10EB0, 0x10EB1),
  (0x10EC2, 0x10EC7), (0x10ED0, 0x10ED8), (0x10EFA, 0x10F27), (0x10F30, 0x10F59),
  (0x10F70, 0x10F89), (0x10FB0, 0x10FCB), (0x10FE0, 0x10FF6), (0x11000, 0x1104D),
  (0x11052, 0x11075), (0x1107F, 0x110BC), (0x110BE, 0x110C2), (0x110D0, 0x110E8),
  (0x110F0, 0x110F9), (0x11100, 0x11134), (0x11136, 0x11147), (0x11150, 0x11176),
  (0x11180, 0x111DF), (0x111E1, 0x111F4), (0x11200, 0x11211), (0x11213, 0x11241),
  (0x11280, 0x11286), (0x11288, 0x11288), (0x1128A, 0x1128D), (0x1128F, 0x1129D),
  (0x1129F, 0x112A9), (0x112B0, 0x112EA), (0x112F0, 0x112F9), (0x11300, 0x11303),
  (0x11305, 0x1130C), (0x1130F, 0x11310), (0x11313, 0x11328), (0x1132A, 0x11330),
  (0x11332, 0x11333), (0x11335, 0x11339), (0x1133B, 0x11344), (0x11347, 0x11348),
  (0x1134B, 0x1134D), (0x11350, 0x11350), (0x11357, 0x11357), (0x1135D, 0x11363),
  (0x11366, 0x1136C), (0x11370, 0x11374), (0x11380, 0x11389), (0x1138B, 0x1138B),
  (0x1138E, 0x1138E), (0x11390, 0x113B5), (0x113B7, 0x113C0), (0x113C2, 0x113C2),
  (0x113C5, 0x113C5), (0x113C7, 0x113CA), (0x113CC, 0x113D5), (0x113D7, 0x113D8),
  (0x113E1, 0x113E2), (0x11400, 0x1145B), (0x1145D, 0x11461), (0x11480, 0x114C7),
  (0x114D0, 0x114D9), (0x11580, 0x115B5), (0x115B8, 0x115DD), (0x11600, 0x11644),
  (0x11650, 0x11659), (0x11660, 0x1166C), (0x11680, 0x116B9), (0x116C0, 0x116C9),
  (0x116D0, 0x116E3), (0x11700, 0x1171A), (0x1171D, 0x1172B), (0x11730, 0x11746),
  (0x11800, 0x1183B), (0x118A0, 0x118F2), (0x118FF, 0x11906), (0x11909, 0x11909),
  (0x1190C, 0x11913), (0x11915, 0x11916), (0x11918, 0x11935), (0x11937, 0x11938),
  (0x1193B, 0x11946), (0x11950, 0x11959), (0x119A0, 0x119A7), (0x119AA, 0x119D7),
  (0x119DA, 0x119E4), (0x11A00, 0x11A47), (0x11A50, 0x11AA2), (0x11AB0, 0x11AF8),
  (0x11B00, 0x11B09), (0x11B60, 0x11B67), (0x11BC0, 0x11BE1), (0x11BF0, 0x11BF9),
  (0x11C00, 0x11C08), (0x11C0A, 0x11C36), (0x11C38, 0x11C45), (0x11C50, 0x11C6C),
  (0x11C70, 0x11C8F), (0x11C92, 0x11CA7), (0x11CA9, 0x11CB6), (0x11D00, 0x11D06),
  (0x11D08, 0x11D09), (0x11D0B, 0x11D36), (0x11D3A, 0x11D3A), (0x11D3C, 0x11D3D),
  (0x11D3F, 0x11D47), (0x11D50, 0x11D59), (0x11D60, 0x11D65), (0x11D67, 0x11D68),
  (0x11D6A, 0x11D8E), (0x11D90, 0x11D91), (0x11D93, 0x11D98), (0x11DA0, 0x11DA9),
  (0x11DB0, 0x11DDB), (0x11DE0, 0x11DE9), (0x11EE0, 0x11EF8), (0x11F00, 0x11F10),
  (0x11F12, 0x11F3A), (0x11F3E, 0x11F5A), (0x11FB0, 0x11FB0), (0x11FC0, 0x11FF1),
  (0x11FFF, 0x12399), (0x12400, 0x1246E), (0x12470, 0x12474), (0x12480, 0x12543),
  (0x12F90, 0x12FF2), (0x13000, 0x1342F), (0x13440, 0x13455), (0x13460, 0x143FA),
  (0x14400, 0x14646), (0x16100, 0x16139), (0x16800, 0x16A38), (0x16A40, 0x16A5E),
  (0x16A60, 0x16A69), (0x16A6E, 0x16ABE), (0x16AC0, 0x16AC9), (0x16AD0, 0x16AED),
  (0x16AF0, 0x16AF5), (0x16B00, 0x16B45), (0x16B50, 0x16B59), (0x16B5B, 0x16B61),
  (0x16B63, 0x16B77), (0x16B7D, 0x16B8F), (0x16D40, 0x16D79), (0x16E40, 0x16E9A),
  (0x16EA0, 0x16EB8), (0x16EBB, 0x16ED3), (0x16F00, 0x16F4A), (0x16F4F, 0x16F87),
  (0x16F8F, 0x16F9F), (0x16FE0, 0x16FE4), (0x16FF0, 0x16FF6), (0x17000, 0x18CD5),
  (0x18CFF, 0x18D1E), (0x18D80, 0x18DF2), (0x1AFF0, 0x1AFF3), (0x1AFF5, 0x1AFFB),
  (0x1AFFD, 0x1AFFE), (0x1B000, 0x1B122), (0x1B132, 0x1B132), (0x1B150, 0x1B152),
  (0x1B155, 0x1B155), (0x1B164, 0x1B167), (0x1B170, 0x1B2FB), (0x1BC00, 0x1BC6A),
  (0x1BC70, 0x1BC7C), (0x1BC80, 0x1BC88), (0x1BC90, 0x1BC99), (0x1BC9C, 0x1BCA3),
  (0x1CC00, 0x1CCFC), (0x1CD00, 0x1CEB3), (0x1CEBA, 0x1CED0), (0x1CEE0, 0x1CEF0),
  (0x1CF00, 0x1CF2D), (0x1CF30, 0x1CF46), (0x1CF50, 0x1CFC3), (0x1D000, 0x1D0F5),
  (0x1D100, 0x1D126), (0x1D129, 0x1D1EA), (0x1D200, 0x1D245), (0x1D2C0, 0x1D2D3),
  (0x1D2E0, 0x1D2F3), (0x1D300, 0x1D356), (0x1D360, 0x1D378), (0x1D400, 0x1D454),
  (0x1D456, 0x1D49C), (0x1D49E, 0x1D49F), (0x1D4A2, 0x1D4A2), (0x1D4A5, 0x1D4A6),
  (0x1D4A9, 0x1D4AC), (0x1D4AE, 0x1D4B9), (0x1D4BB, 0x1D4BB), (0x1D4BD, 0x1D4C3),
  (0x1D4C5, 0x1D505), (0x1D507, 0x1D50A), (0x1D50D, 0x1D514), (0x1D516, 0x1D51C),
  (0x1D51E, 0x1D539), (0x1D53B, 0x1D53E), (0x1D540, 0x1D544), (0x1D546, 0x1D546),
  (0x1D54A, 0x1D550), (0x1D552, 0x1D6A5), (0x1D6A8, 0x1D7CB), (0x1D7CE, 0x1DA8B),
  (0x1DA9B, 0x1DA9F), (0x1DAA1, 0x1DAAF), (0x1DF00, 0x1DF1E), (0x1DF25, 0x1DF2A),
  (0x1E000, 0x1E006), (0x1E008, 0x1E018), (0x1E01B, 0x1E021), (0x1E023, 0x1E024),
  (0x1E026, 0x1E02A), (0x1E030, 0x1E06D), (0x1E08F, 0x1E08F), (0x1E100, 0x1E12C),
  (0x1E130, 0x1E13D), (0x1E140, 0x1E149), (0x1E14E, 0x1E14F), (0x1E290, 0x1E2AE),
  (0x1E2C0, 0x1E2F9), (0x1E2FF, 0x1E2FF), (0x1E4D0, 0x1E4F9), (0x1E5D0, 0x1E5FA),
  (0x1E5FF, 0x1E5FF), (0x1E6C0, 0x1E6DE), (0x1E6E0, 0x1E6F5), (0x1E6FE, 0x1E6FF),
  (0x1E7E0, 0x1E7E6), (0x1E7E8, 0x1E7EB), (0x1E7ED, 0x1E7EE), (0x1E7F0, 0x1E7FE),
  (0x1E800, 0x1E8C4), (0x1E8C7, 0x1E8D6), (0x1E900, 0x1E94B), (0x1E950, 0x1E959),
  (0x1E95E, 0x1E95F), (0x1EC71, 0x1ECB4), (0x1ED01, 0x1ED3D), (0x1EE00, 0x1EE03),
  (0x1EE05, 0x1EE1F), (0x1EE21, 0x1EE22), (0x1EE24, 0x1EE24), (0x1EE27, 0x1EE27),
  (0x1EE29, 0x1EE32), (0x1EE34, 0x1EE37), (0x1EE39, 0x1EE39), (0x1EE3B, 0x1EE3B),
  (0x1EE42, 0x1EE42), (0x1EE47, 0x1EE47), (0x1EE49, 0x1EE49), (0x1EE4B, 0x1EE4B),
  (0x1EE4D, 0x1EE4F), (0x1EE51, 0x1EE52), (0x1EE54, 0x1EE54), (0x1EE57, 0x1EE57),
  (0x1EE59, 0x1EE59), (0x1EE5B, 0x1EE5B), (0x1EE5D, 0x1EE5D), (0x1EE5F, 0x1EE5F),
  (0x1EE61, 0x1EE62), (0x1EE64, 0x1EE64), (0x1EE67, 0x1EE6A), (0x1EE6C, 0x1EE72),
  (0x1EE74, 0x1EE77), (0x1EE79, 0x1EE7C), (0x1EE7E, 0x1EE7E), (0x1EE80, 0x1EE89),
  (0x1EE8B, 0x1EE9B), (0x1EEA1, 0x1EEA3), (0x1EEA5, 0x1EEA9), (0x1EEAB, 0x1EEBB),
  (0x1EEF0, 0x1EEF1), (0x1F000, 0x1F02B), (0x1F030, 0x1F093), (0x1F0A0, 0x1F0AE),
  (0x1F0B1, 0x1F0BF), (0x1F0C1, 0x1F0CF), (0x1F0D1, 0x1F0F5), (0x1F101, 0x1F1AD),
  (0x1F1E6, 0x1F202), (0x1F210, 0x1F23B), (0x1F240, 0x1F248), (0x1F250, 0x1F251),
  (0x1F260, 0x1F265), (0x1F300, 0x1F6D8), (0x1F6DC, 0x1F6EC), (0x1F6F0, 0x1F6FC),
  (0x1F700, 0x1F7D9), (0x1F7E0, 0x1F7EB), (0x1F7F0, 0x1F7F0), (0x1F800, 0x1F80B),
  (0x1F810, 0x1F847), (0x1F850, 0x1F859), (0x1F860, 0x1F887), (0x1F890, 0x1F8AD),
  (0x1F8B0, 0x1F8BB), (0x1F8C0, 0x1F8C1), (0x1F8D0, 0x1F8D8), (0x1F900, 0x1FA57),
  (0x1FA60, 0x1FA6D), (0x1FA70, 0x1FA7C), (0x1FA80, 0x1FA8A), (0x1FA8E, 0x1FAC6),
  (0x1FAC8, 0x1FAC8), (0x1FACD, 0x1FADC), (0x1FADF, 0x1FAEA), (0x1FAEF, 0x1FAF8),
  (0x1FB00, 0x1FB92), (0x1FB94, 0x1FBFA), (0x20000, 0x2A6DF), (0x2A700, 0x2B81D),
  (0x2B820, 0x2CEAD), (0x2CEB0, 0x2EBE0), (0x2EBF0, 0x2EE5D), (0x2F800, 0x2FA1D),
  (0x30000, 0x3134A), (0x31350, 0x33479), (0xE0100, 0xE01EF)]

/-- The characters that are left out. -/
def ignored : Ranges := #[
  (0xAD, 0xAD), (0x34F, 0x34F), (0x115F, 0x1160), (0x17B4, 0x17B5), (0x180B, 0x180F),
  (0x200B, 0x200B), (0x2060, 0x2064), (0x206A, 0x206F), (0x3164, 0x3164), (0xFE00, 0xFE0F),
  (0xFEFF, 0xFEFF), (0xFFA0, 0xFFA0), (0x1BCA0, 0x1BCA3), (0x1D173, 0x1D17A), (0xE0100, 0xE01EF)]

/-- Characters that are folded alike: the first and the last one, the step between them, and what
the first one is folded to. -/
def shifts : Array (Nat × Nat × Nat × Nat) := #[
  (0xC0, 0xD6, 1, 0xE0), (0xD8, 0xDE, 1, 0xF8), (0x100, 0x12E, 2, 0x101),
  (0x141, 0x147, 2, 0x142), (0x14A, 0x176, 2, 0x14B), (0x1CD, 0x1DB, 2, 0x1CE),
  (0x1DE, 0x1EE, 2, 0x1DF), (0x1F8, 0x21E, 2, 0x1F9), (0x222, 0x232, 2, 0x223),
  (0x246, 0x24E, 2, 0x247), (0x391, 0x3A1, 1, 0x3B1), (0x3A3, 0x3AB, 1, 0x3C3),
  (0x3D8, 0x3EE, 2, 0x3D9), (0x400, 0x40F, 1, 0x450), (0x410, 0x42F, 1, 0x430),
  (0x460, 0x480, 2, 0x461), (0x48A, 0x4BE, 2, 0x48B), (0x4C1, 0x4CD, 2, 0x4C2),
  (0x4D0, 0x52E, 2, 0x4D1), (0x531, 0x556, 1, 0x561), (0x10A0, 0x10C5, 1, 0x2D00),
  (0x13F8, 0x13FD, 1, 0x13F0), (0x1C90, 0x1CBA, 1, 0x10D0), (0x1D31, 0x1D39, 2, 0x65),
  (0x1DAE, 0x1DB1, 1, 0x272), (0x1E00, 0x1E94, 2, 0x1E01), (0x1EA0, 0x1EFE, 2, 0x1EA1),
  (0x1F08, 0x1F0F, 1, 0x1F00), (0x1F18, 0x1F1D, 1, 0x1F10), (0x1F28, 0x1F2F, 1, 0x1F20),
  (0x1F38, 0x1F3F, 1, 0x1F30), (0x1F48, 0x1F4D, 1, 0x1F40), (0x1F59, 0x1F5F, 2, 0x1F51),
  (0x1F68, 0x1F6F, 1, 0x1F60), (0x2074, 0x2079, 1, 0x34), (0x2080, 0x2089, 1, 0x30),
  (0x2096, 0x2099, 1, 0x6B), (0x2135, 0x2138, 1, 0x5D0), (0x2460, 0x2468, 1, 0x31),
  (0x24B6, 0x24CF, 1, 0x61), (0x24D0, 0x24E9, 1, 0x61), (0x2C00, 0x2C2F, 1, 0x2C30),
  (0x2C80, 0x2CE2, 2, 0x2C81), (0x313A, 0x313F, 1, 0x11B0), (0x3145, 0x314E, 1, 0x1109),
  (0x314F, 0x3163, 1, 0x1161), (0x3178, 0x317C, 1, 0x112B), (0x3269, 0x326D, 1, 0x110E),
  (0x32E4, 0x32E9, 1, 0x30CA), (0x32EE, 0x32F2, 1, 0x30DE), (0x32F5, 0x32FA, 1, 0x30E8),
  (0x32FB, 0x32FE, 1, 0x30EF), (0xA640, 0xA66C, 2, 0xA641), (0xA680, 0xA69A, 2, 0xA681),
  (0xA722, 0xA72E, 2, 0xA723), (0xA732, 0xA76E, 2, 0xA733), (0xA77E, 0xA786, 2, 0xA77F),
  (0xA796, 0xA7A8, 2, 0xA797), (0xA7B4, 0xA7C2, 2, 0xA7B5), (0xA7CC, 0xA7DA, 2, 0xA7CD),
  (0xAB70, 0xABBF, 1, 0x13A0), (0xFE41, 0xFE44, 1, 0x300C), (0xFF01, 0xFF20, 1, 0x21),
  (0xFF21, 0xFF3A, 1, 0x61), (0xFF3B, 0xFF5E, 1, 0x5B), (0xFF85, 0xFF8A, 1, 0x30CA),
  (0xFF8F, 0xFF93, 1, 0x30DE), (0xFF96, 0xFF9B, 1, 0x30E8), (0xFFAA, 0xFFAF, 1, 0x11B0),
  (0xFFB5, 0xFFBE, 1, 0x1109), (0xFFC2, 0xFFC7, 1, 0x1161), (0xFFCA, 0xFFCF, 1, 0x1167),
  (0xFFD2, 0xFFD7, 1, 0x116D), (0xFFE9, 0xFFEC, 1, 0x2190), (0x10400, 0x10427, 1, 0x10428),
  (0x104B0, 0x104D3, 1, 0x104D8), (0x10570, 0x1057A, 1, 0x10597), (0x1057C, 0x1058A, 1, 0x105A3),
  (0x1058C, 0x10592, 1, 0x105B3), (0x10C80, 0x10CB2, 1, 0x10CC0), (0x10D50, 0x10D65, 1, 0x10D70),
  (0x118A0, 0x118BF, 1, 0x118C0), (0x16E40, 0x16E5F, 1, 0x16E60), (0x16EA0, 0x16EB8, 1, 0x16EBB),
  (0x1CCD6, 0x1CCEF, 1, 0x61), (0x1CCF0, 0x1CCF9, 1, 0x30), (0x1D400, 0x1D419, 1, 0x61),
  (0x1D41A, 0x1D433, 1, 0x61), (0x1D434, 0x1D44D, 1, 0x61), (0x1D44E, 0x1D454, 1, 0x61),
  (0x1D456, 0x1D467, 1, 0x69), (0x1D468, 0x1D481, 1, 0x61), (0x1D482, 0x1D49B, 1, 0x61),
  (0x1D4A9, 0x1D4AC, 1, 0x6E), (0x1D4AE, 0x1D4B5, 1, 0x73), (0x1D4B6, 0x1D4B9, 1, 0x61),
  (0x1D4BB, 0x1D4CF, 2, 0x66), (0x1D4D0, 0x1D4E9, 1, 0x61), (0x1D4EA, 0x1D503, 1, 0x61),
  (0x1D507, 0x1D50A, 1, 0x64), (0x1D50D, 0x1D514, 1, 0x6A), (0x1D516, 0x1D51C, 1, 0x73),
  (0x1D51E, 0x1D537, 1, 0x61), (0x1D53B, 0x1D53E, 1, 0x64), (0x1D540, 0x1D544, 1, 0x69),
  (0x1D54A, 0x1D550, 1, 0x73), (0x1D552, 0x1D56B, 1, 0x61), (0x1D56C, 0x1D585, 1, 0x61),
  (0x1D586, 0x1D59F, 1, 0x61), (0x1D5A0, 0x1D5B9, 1, 0x61), (0x1D5BA, 0x1D5D3, 1, 0x61),
  (0x1D5D4, 0x1D5ED, 1, 0x61), (0x1D5EE, 0x1D607, 1, 0x61), (0x1D608, 0x1D621, 1, 0x61),
  (0x1D622, 0x1D63B, 1, 0x61), (0x1D63C, 0x1D655, 1, 0x61), (0x1D656, 0x1D66F, 1, 0x61),
  (0x1D670, 0x1D689, 1, 0x61), (0x1D68A, 0x1D6A3, 1, 0x61), (0x1D6A8, 0x1D6B8, 1, 0x3B1),
  (0x1D6BA, 0x1D6C0, 1, 0x3C3), (0x1D6C2, 0x1D6D2, 1, 0x3B1), (0x1D6D4, 0x1D6DA, 1, 0x3C3),
  (0x1D6E2, 0x1D6F2, 1, 0x3B1), (0x1D6F4, 0x1D6FA, 1, 0x3C3), (0x1D6FC, 0x1D70C, 1, 0x3B1),
  (0x1D70E, 0x1D714, 1, 0x3C3), (0x1D71C, 0x1D72C, 1, 0x3B1), (0x1D72E, 0x1D734, 1, 0x3C3),
  (0x1D736, 0x1D746, 1, 0x3B1), (0x1D748, 0x1D74E, 1, 0x3C3), (0x1D756, 0x1D766, 1, 0x3B1),
  (0x1D768, 0x1D76E, 1, 0x3C3), (0x1D770, 0x1D780, 1, 0x3B1), (0x1D782, 0x1D788, 1, 0x3C3),
  (0x1D790, 0x1D7A0, 1, 0x3B1), (0x1D7A2, 0x1D7A8, 1, 0x3C3), (0x1D7AA, 0x1D7BA, 1, 0x3B1),
  (0x1D7BC, 0x1D7C2, 1, 0x3C3), (0x1D7CE, 0x1D7D7, 1, 0x30), (0x1D7D8, 0x1D7E1, 1, 0x30),
  (0x1D7E2, 0x1D7EB, 1, 0x30), (0x1D7EC, 0x1D7F5, 1, 0x30), (0x1D7F6, 0x1D7FF, 1, 0x30),
  (0x1E030, 0x1E038, 1, 0x430), (0x1E03C, 0x1E046, 1, 0x43E), (0x1E051, 0x1E059, 1, 0x430),
  (0x1E05F, 0x1E064, 1, 0x443), (0x1E900, 0x1E921, 1, 0x1E922), (0x1EE0A, 0x1EE0D, 1, 0x643),
  (0x1EE2A, 0x1EE2D, 1, 0x643), (0x1F130, 0x1F149, 1, 0x61), (0x1FBF0, 0x1FBF9, 1, 0x30)]

/-- What single characters are folded to, one word for each. An empty word stands for a character
that is not folded. -/
def words : Rows := #[
  (0xAA, "a"), (0xB2, "2 3  μ    1 o  1⁄4 1⁄2 3⁄4"),
  (0x130, "i\u0307  ij ij ĵ  ķ   ĺ  ļ  ľ  l· l·"), (0x149, "ʼn"),
  (0x178, "ÿ ź  ż  ž  s  ɓ ƃ  ƅ  ɔ ƈ  ɖ ɗ ƌ   ǝ ə ɛ ƒ  ɠ ɣ  ɩ ɨ ƙ    ɯ ɲ  ɵ ơ  ƣ"),
  (0x1A4, "ƥ  ʀ ƨ  ʃ   ƭ  ʈ ư  ʊ ʋ ƴ  ƶ  ʒ ƹ    ƽ"), (0x1C4, "dž dž dž lj lj lj nj nj nj"),
  (0x1F1, "dz dz dz ǵ  ƕ ƿ"), (0x220, "ƞ"), (0x23A, "ⱥ ȼ  ƚ ⱦ   ɂ  ƀ ʉ ʌ"),
  (0x2B0, "h ɦ j r ɹ ɻ ʁ w y"), (0x2E0, "ɣ l s x ʕ"),
  (0x340, "\u0300 \u0301  \u0313 \u0308\u0301 ι"), (0x370, "ͱ  ͳ  ʹ  ͷ"), (0x37E, "; ϳ"),
  (0x386, "ά · έ ή ί  ό  ύ ώ"), (0x3CF, "ϗ β θ υ ύ ϋ φ π"), (0x3F0, "κ ρ σ  θ ε  ϸ  σ ϻ   ͻ ͼ ͽ"),
  (0x4C0, "ӏ"), (0x587, "եւ"), (0x675, "\u0627\u0674 \u0648\u0674 \u06C7\u0674 \u064A\u0674"),
  (0x958, "क\u093C ख\u093C ग\u093C ज\u093C ड\u093C ढ\u093C फ\u093C य\u093C"),
  (0x9DC, "ড\u09BC ঢ\u09BC  য\u09BC"), (0xA33, "ਲ\u0A3C   ਸ\u0A3C"),
  (0xA59, "ਖ\u0A3C ਗ\u0A3C ਜ\u0A3C   ਫ\u0A3C"), (0xB5C, "ଡ\u0B3C ଢ\u0B3C"), (0xE33, "\u0E4Dา"),
  (0xEB3, "\u0ECDາ"), (0xEDC, "ຫນ ຫມ"), (0xF0C, "་"), (0xF43, "ག\u0FB7"), (0xF4D, "ཌ\u0FB7"),
  (0xF52, "ད\u0FB7"), (0xF57, "བ\u0FB7"), (0xF5C, "ཛ\u0FB7"), (0xF69, "ཀ\u0FB5"),
  (0xF73, "\u0F71\u0F72  \u0F71\u0F74 \u0FB2\u0F80 \u0FB2\u0F71\u0F80"),
  (0xF78, "\u0FB3\u0F80 \u0FB3\u0F71\u0F80"), (0xF81, "\u0F71\u0F80"), (0xF93, "\u0F92\u0FB7"),
  (0xF9D, "\u0F9C\u0FB7"), (0xFA2, "\u0FA1\u0FB7"), (0xFA7, "\u0FA6\u0FB7"),
  (0xFAC, "\u0FAB\u0FB7"), (0xFB9, "\u0F90\u0FB5"), (0x10C7, "ⴧ"), (0x10CD, "ⴭ"), (0x10FC, "ნ"),
  (0x1C80, "в д о с т т ъ ѣ ꙋ ᲊ"), (0x1CBD, "ჽ ჾ ჿ"),
  (0x1D2C, "a æ b  d  ǝ  h  j  l  n  o ȣ p r t u w a ɐ ɑ ᴂ b d e ə ɛ ɜ g  k m ŋ o"),
  (0x1D53, "ɔ ᴖ ᴗ p t u ᴝ ɯ v ᴥ β γ δ φ χ i r u v β γ ρ φ χ"), (0x1D78, "н"),
  (0x1D9B, "ɒ c ɕ ð ɜ f ɟ ɡ ɥ ɨ ɩ ɪ ᵻ ʝ ɭ ᶅ ʟ ɱ ɰ"), (0x1DB2, "ɸ ʂ ʃ ƫ ʉ ʊ ᴜ ʋ ʌ z ʐ ʑ ʒ θ"),
  (0x1E9A, "aʾ ṡ   ß"),
  (0x1F71, "ά  έ  ή  ί  ό  ύ  ώ   ἀι ἁι ἂι ἃι ἄι ἅι ἆι ἇι ἀι ἁι ἂι ἃι ἄι ἅι ἆι ἇι"),
  (0x1F90, "ἠι ἡι ἢι ἣι ἤι ἥι ἦι ἧι ἠι ἡι ἢι ἣι ἤι ἥι ἦι ἧι ὠι ὡι ὢι ὣι ὤι ὥι ὦι"),
  (0x1FA7, "ὧι ὠι ὡι ὢι ὣι ὤι ὥι ὦι ὧι   ὰι αι άι   ᾶι ᾰ ᾱ ὰ ά αι  ι    ὴι ηι ήι"),
  (0x1FC7, "ῆι ὲ έ ὴ ή ηι"), (0x1FD3, "ΐ"), (0x1FD8, "ῐ ῑ ὶ ί"), (0x1FE3, "ΰ"),
  (0x1FE8, "ῠ ῡ ὺ ύ ῥ   \x60   ὼι ωι ώι   ῶι ὸ ό ὼ ώ ωι"), (0x2011, "‐"),
  (0x2033, "′′ ′′′  ‵‵ ‵‵‵"), (0x203C, "!!"), (0x2047, "?? ?! !?"), (0x2057, "′′′′"),
  (0x2070, "0 i"), (0x207A, "+ − = ( ) n"), (0x208A, "+ − = ( )  a e o x ə h"), (0x209A, "p s t"),
  (0x20A8, "rs"),
  (0x2100, "a/c a/s c °c  c/o c/u ɛ  °f g h h h h ħ i i l l  n no   p q r r r   sm"),
  (0x2121, "tel tm  z  ω  z  k å b c  e e f ⅎ m o"), (0x2139, "i  fax π γ γ π ∑"),
  (0x2145, "d d e i j"),
  (0x2150, "1⁄7 1⁄9 1⁄10 1⁄3 2⁄3 1⁄5 2⁄5 3⁄5 4⁄5 1⁄6 5⁄6 1⁄8 3⁄8 5⁄8 7⁄8 1⁄ i ii"),
  (0x2162, "iii iv v vi vii viii ix x xi xii l c d m i ii iii iv v vi vii viii ix"),
  (0x2179, "x xi xii l c d m    ↄ"), (0x2189, "0⁄3"), (0x222C, "∫∫ ∫∫∫  ∮∮ ∮∮∮"), (0x2329, "〈 〉"),
  (0x2469, "10 11 12 13 14 15 16 17 18 19 20 (1) (2) (3) (4) (5) (6) (7) (8) (9)"),
  (0x247D, "(10) (11) (12) (13) (14) (15) (16) (17) (18) (19) (20)"),
  (0x249C, "(a) (b) (c) (d) (e) (f) (g) (h) (i) (j) (k) (l) (m) (n) (o) (p) (q)"),
  (0x24AD, "(r) (s) (t) (u) (v) (w) (x) (y) (z)"), (0x24EA, "0"), (0x2A0C, "∫∫∫∫"),
  (0x2A74, "::= == ==="), (0x2ADC, "⫝\u0338"), (0x2C60, "ⱡ  ɫ ᵽ ɽ   ⱨ  ⱪ  ⱬ  ɑ ɱ ɐ ɒ  ⱳ   ⱶ"),
  (0x2C7C, "j v ȿ ɀ"), (0x2CEB, "ⳬ  ⳮ"), (0x2CF2, "ⳳ"), (0x2D6F, "ⵡ"), (0x2E9F, "母"),
  (0x2EF3, "龟"),
  (0x2F00, "一 丨 丶 丿 乙 亅 二 亠 人 儿 入 八 冂 冖 冫 几 凵 刀 力 勹 匕 匚 匸 十 卜 卩 厂 厶 又 口 囗 土 士 夂 夊"),
  (0x2F23, "夕 大 女 子 宀 寸 小 尢 尸 屮 山 巛 工 己 巾 干 幺 广 廴 廾 弋 弓 彐 彡 彳 心 戈 戶 手 支 攴 文 斗 斤 方"),
  (0x2F46, "无 日 曰 月 木 欠 止 歹 殳 毋 比 毛 氏 气 水 火 爪 父 爻 爿 片 牙 牛 犬 玄 玉 瓜 瓦 甘 生 用 田 疋 疒 癶"),
  (0x2F69, "白 皮 皿 目 矛 矢 石 示 禸 禾 穴 立 竹 米 糸 缶 网 羊 羽 老 而 耒 耳 聿 肉 臣 自 至 臼 舌 舛 舟 艮 色 艸"),
  (0x2F8C, "虍 虫 血 行 衣 襾 見 角 言 谷 豆 豕 豸 貝 赤 走 足 身 車 辛 辰 辵 邑 酉 釆 里 金 長 門 阜 隶 隹 雨 靑 非"),
  (0x2FAF, "面 革 韋 韭 音 頁 風 飛 食 首 香 馬 骨 高 髟 鬥 鬯 鬲 鬼 魚 鳥 鹵 鹿 麥 麻 黃 黍 黑 黹 黽 鼎 鼓 鼠 鼻 齊"),
  (0x2FD2, "齒 龍 龜 龠"), (0x3002, "."), (0x3036, "〒  十 卄 卅"), (0x309F, "より"), (0x30FF, "コト"),
  (0x3131, "ᄀ ᄁ ᆪ ᄂ ᆬ ᆭ ᄃ ᄄ ᄅ"), (0x3140, "ᄚ ᄆ ᄇ ᄈ ᄡ"),
  (0x3165, "ᄔ ᄕ ᇇ ᇈ ᇌ ᇎ ᇓ ᇗ ᇙ ᄜ ᇝ ᇟ ᄝ ᄞ ᄠ ᄢ ᄣ ᄧ ᄩ"),
  (0x317D, "ᄲ ᄶ ᅀ ᅇ ᅌ ᇱ ᇲ ᅗ ᅘ ᅙ ᆄ ᆅ ᆈ ᆑ ᆒ ᆔ ᆞ ᆡ    一 二 三 四 上 中 下 甲 乙 丙 丁 天 地 人"),
  (0x3200, "(ᄀ) (ᄂ) (ᄃ) (ᄅ) (ᄆ) (ᄇ) (ᄉ) (ᄋ) (ᄌ) (ᄎ) (ᄏ) (ᄐ) (ᄑ) (ᄒ) (가) (나) (다)"),
  (0x3211, "(라) (마) (바) (사) (아) (자) (차) (카) (타) (파) (하) (주) (오전) (오후)  (一) (二) (三)"),
  (0x3223, "(四) (五) (六) (七) (八) (九) (十) (月) (火) (水) (木) (金) (土) (日) (株) (有) (社)"),
  (0x3234, "(名) (特) (財) (祝) (労) (代) (呼) (学) (監) (企) (資) (協) (祭) (休) (自) (至) 問 幼 文"),
  (0x3247, "箏"), (0x3250, "pte 21 22 23 24 25 26 27 28 29 30 31 32 33 34 35 ᄀ ᄂ ᄃ ᄅ ᄆ ᄇ ᄉ ᄋ ᄌ"),
  (0x326E, "가 나 다 라 마 바 사 아 자 차 카 타 파 하 참고 주의 우  一 二 三 四 五 六 七 八 九 十 月 火 水 木 金 土 日"),
  (0x3291, "株 有 社 名 特 財 祝 労 秘 男 女 適 優 印 注 項 休 写 正 上 中 下 左 右 医 宗 学 監 企 資 協 夜 36 37"),
  (0x32B3, "38 39 40 41 42 43 44 45 46 47 48 49 50 1月 2月 3月 4月 5月 6月 7月 8月 9月 10月"),
  (0x32CA, "11月 12月 hg erg ev ltd ア イ ウ エ オ カ キ ク ケ コ サ シ ス セ ソ タ チ ツ テ ト"), (0x32EA, "ヒ フ ヘ ホ"),
  (0x32F3, "ヤ ユ"),
  (0x32FF, "令和 アパート アルファ アンペア アール イニング インチ ウォン エスクード エーカー オンス オーム カイリ カラット カロリー"),
  (0x330E, "ガロン ガンマ ギガ ギニー キュリー ギルダー キロ キログラム キロメートル キロワット グラム グラムトン クルゼイロ クローネ"),
  (0x331C, "ケース コルナ コーポ サイクル サンチーム シリング センチ セント ダース デシ ドル トン ナノ ノット ハイツ パーセント パーツ"),
  (0x332D, "バーレル ピアストル ピクル ピコ ビル ファラッド フィート ブッシェル フラン ヘクタール ペソ ペニヒ ヘルツ ペンス ページ ベータ"),
  (0x333D, "ポイント ボルト ホン ポンド ホール ホーン マイクロ マイル マッハ マルク マンション ミクロン ミリ ミリバール メガ メガトン"),
  (0x334D, "メートル ヤード ヤール ユアン リットル リラ ルピー ルーブル レム レントゲン ワット 0点 1点 2点 3点 4点 5点 6点 7点"),
  (0x3360, "8点 9点 10点 11点 12点 13点 14点 15点 16点 17点 18点 19点 20点 21点 22点 23点 24点 hpa"),
  (0x3372, "da au bar ov pc dm dm2 dm3 iu 平成 昭和 大正 明治 株式会社 pa na μa ma ka kb mb gb"),
  (0x3388, "cal kcal pf nf μf μg mg kg hz khz mhz ghz thz μl ml dl kl fm nm μm mm"),
  (0x339D, "cm km mm2 cm2 m2 km2 mm3 cm3 m3 km3 m∕s m∕s2 pa kpa mpa gpa rad rad∕s"),
  (0x33AF, "rad∕s2 ps ns μs ms pv nv μv mv kv mv pw nw μw mw kw mw kω mω  bq cc cd"),
  (0x33C6, "c∕kg  db gy ha hp in kk km kt lm ln log lx mb mil mol ph  ppm pr sr sv"),
  (0x33DD, "wb v∕m a∕m 1日 2日 3日 4日 5日 6日 7日 8日 9日 10日 11日 12日 13日 14日 15日 16日 17日"),
  (0x33F1, "18日 19日 20日 21日 22日 23日 24日 25日 26日 27日 28日 29日 30日 31日 gal"), (0xA69C, "ъ ь"),
  (0xA770, "ꝯ"), (0xA779, "ꝺ  ꝼ  ᵹ"), (0xA78B, "ꞌ  ɥ   ꞑ  ꞓ"), (0xA7AA, "ɦ ɜ ɡ ɬ ɪ  ʞ ʇ ʝ ꭓ"),
  (0xA7C4, "ꞔ ʂ ᶎ ꟈ  ꟊ  ɤ"), (0xA7DC, "ƛ"), (0xA7F1, "s c f q ꟶ   ħ œ"), (0xAB5C, "ꜧ ꬷ ɫ ꭒ"),
  (0xAB69, "ʍ"),
  (0xF900, "豈 更 車 賈 滑 串 句 龜 龜 契 金 喇 奈 懶 癩 羅 蘿 螺 裸 邏 樂 洛 烙 珞 落 酪 駱 亂 卵 欄 爛 蘭 鸞 嵐 濫"),
  (0xF923, "藍 襤 拉 臘 蠟 廊 朗 浪 狼 郎 來 冷 勞 擄 櫓 爐 盧 老 蘆 虜 路 露 魯 鷺 碌 祿 綠 菉 錄 鹿 論 壟 弄 籠 聾"),
  (0xF946, "牢 磊 賂 雷 壘 屢 樓 淚 漏 累 縷 陋 勒 肋 凜 凌 稜 綾 菱 陵 讀 拏 樂 諾 丹 寧 怒 率 異 北 磻 便 復 不 泌"),
  (0xF969, "數 索 參 塞 省 葉 說 殺 辰 沈 拾 若 掠 略 亮 兩 凉 梁 糧 良 諒 量 勵 呂 女 廬 旅 濾 礪 閭 驪 麗 黎 力 曆"),
  (0xF98C, "歷 轢 年 憐 戀 撚 漣 煉 璉 秊 練 聯 輦 蓮 連 鍊 列 劣 咽 烈 裂 說 廉 念 捻 殮 簾 獵 令 囹 寧 嶺 怜 玲 瑩"),
  (0xF9AF, "羚 聆 鈴 零 靈 領 例 禮 醴 隸 惡 了 僚 寮 尿 料 樂 燎 療 蓼 遼 龍 暈 阮 劉 杻 柳 流 溜 琉 留 硫 紐 類 六"),
  (0xF9D2, "戮 陸 倫 崙 淪 輪 律 慄 栗 率 隆 利 吏 履 易 李 梨 泥 理 痢 罹 裏 裡 里 離 匿 溺 吝 燐 璘 藺 隣 鱗 麟 林"),
  (0xF9F5, "淋 臨 立 笠 粒 狀 炙 識 什 茶 刺 切 度 拓 糖 宅 洞 暴 輻 行 降 見 廓 兀 嗀   塚  晴   凞 猪 益 礼 神 祥"),
  (0xFA1B, "福 靖 精 羽  蘒  諸   逸 都    飯 飼 館 鶴 郞 隷 侮 僧 免 勉 勤 卑 喝 嘆 器 塀 墨 層 屮 悔 慨 憎 懲 敏"),
  (0xFA42, "既 暑 梅 海 渚 漢 煮 爫 琢 碑 社 祉 祈 祐 祖 祝 禍 禎 穀 突 節 練 縉 繁 署 者 臭 艹 艹 著 褐 視 謁 謹 賓"),
  (0xFA65, "贈 辶 逸 難 響 頻 恵 𤋮 舘   並 况 全 侀 充 冀 勇 勺 喝 啕 喙 嗢 塚 墳 奄 奔 婢 嬨 廒 廙 彩 徭 惘 慎 愈"),
  (0xFA89, "憎 慠 懲 戴 揄 搜 摒 敖 晴 朗 望 杖 歹 殺 流 滛 滋 漢 瀞 煮 瞧 爵 犯 猪 瑱 甆 画 瘝 瘟 益 盛 直 睊 着 磌"),
  (0xFAAC, "窱 節 类 絛 練 缾 者 荒 華 蝹 襁 覆 視 調 諸 請 謁 諾 諭 謹 變 贈 輸 遲 醙 鉶 陼 難 靖 韛 響 頋 頻 鬒 龜"),
  (0xFACF, "𢡊 𢡄 𣏕 㮝 䀘 䀹 𥉉 𥳐 𧻓 齃 龎"), (0xFB00, "ff fi fl ffi ffl st st"),
  (0xFB13, "մն մե մի վն մխ"),
  (0xFB1D, "\u05D9\u05B4  \u05F2\u05B7 \u05E2 \u05D0 \u05D3 \u05D4 \u05DB \u05DC"),
  (0xFB26, "\u05DD \u05E8 \u05EA + \u05E9\u05C1 \u05E9\u05C2 \u05E9\u05BC\u05C1"),
  (0xFB2D, "\u05E9\u05BC\u05C2 \u05D0\u05B7 \u05D0\u05B8 \u05D0\u05BC \u05D1\u05BC"),
  (0xFB32, "\u05D2\u05BC \u05D3\u05BC \u05D4\u05BC \u05D5\u05BC \u05D6\u05BC"),
  (0xFB38, "\u05D8\u05BC \u05D9\u05BC \u05DA\u05BC \u05DB\u05BC \u05DC\u05BC"),
  (0xFB3E, "\u05DE\u05BC  \u05E0\u05BC \u05E1\u05BC  \u05E3\u05BC \u05E4\u05BC"),
  (0xFB46, "\u05E6\u05BC \u05E7\u05BC \u05E8\u05BC \u05E9\u05BC \u05EA\u05BC"),
  (0xFB4B, "\u05D5\u05B9 \u05D1\u05BF \u05DB\u05BF \u05E4\u05BF \u05D0\u05DC"),
  (0xFB50, "\u0671 \u0671 \u067B \u067B \u067B \u067B \u067E \u067E \u067E \u067E"),
  (0xFB5A, "\u0680 \u0680 \u0680 \u0680 \u067A \u067A \u067A \u067A \u067F \u067F"),
  (0xFB64, "\u067F \u067F \u0679 \u0679 \u0679 \u0679 \u06A4 \u06A4 \u06A4 \u06A4"),
  (0xFB6E, "\u06A6 \u06A6 \u06A6 \u06A6 \u0684 \u0684 \u0684 \u0684 \u0683 \u0683"),
  (0xFB78, "\u0683 \u0683 \u0686 \u0686 \u0686 \u0686 \u0687 \u0687 \u0687 \u0687"),
  (0xFB82, "\u068D \u068D \u068C \u068C \u068E \u068E \u0688 \u0688 \u0698 \u0698"),
  (0xFB8C, "\u0691 \u0691 \u06A9 \u06A9 \u06A9 \u06A9 \u06AF \u06AF \u06AF \u06AF"),
  (0xFB96, "\u06B3 \u06B3 \u06B3 \u06B3 \u06B1 \u06B1 \u06B1 \u06B1 \u06BA \u06BA"),
  (0xFBA0, "\u06BB \u06BB \u06BB \u06BB \u06C0 \u06C0 \u06C1 \u06C1 \u06C1 \u06C1"),
  (0xFBAA, "\u06BE \u06BE \u06BE \u06BE \u06D2 \u06D2 \u06D3 \u06D3"),
  (0xFBD3, "\u06AD \u06AD \u06AD \u06AD \u06C7 \u06C7 \u06C6 \u06C6 \u06C8 \u06C8"),
  (0xFBDD, "\u06C7\u0674 \u06CB \u06CB \u06C5 \u06C5 \u06C9 \u06C9 \u06D0 \u06D0"),
  (0xFBE6, "\u06D0 \u06D0 \u0649 \u0649 \u0626\u0627 \u0626\u0627 \u0626\u06D5"),
  (0xFBED, "\u0626\u06D5 \u0626\u0648 \u0626\u0648 \u0626\u06C7 \u0626\u06C7"),
  (0xFBF2, "\u0626\u06C6 \u0626\u06C6 \u0626\u06C8 \u0626\u06C8 \u0626\u06D0"),
  (0xFBF7, "\u0626\u06D0 \u0626\u06D0 \u0626\u0649 \u0626\u0649 \u0626\u0649"),
  (0xFBFC, "\u06CC \u06CC \u06CC \u06CC \u0626\u062C \u0626\u062D \u0626\u0645"),
  (0xFC03, "\u0626\u0649 \u0626\u064A \u0628\u062C \u0628\u062D \u0628\u062E"),
  (0xFC08, "\u0628\u0645 \u0628\u0649 \u0628\u064A \u062A\u062C \u062A\u062D"),
  (0xFC0D, "\u062A\u062E \u062A\u0645 \u062A\u0649 \u062A\u064A \u062B\u062C"),
  (0xFC12, "\u062B\u0645 \u062B\u0649 \u062B\u064A \u062C\u062D \u062C\u0645"),
  (0xFC17, "\u062D\u062C \u062D\u0645 \u062E\u062C \u062E\u062D \u062E\u0645"),
  (0xFC1C, "\u0633\u062C \u0633\u062D \u0633\u062E \u0633\u0645 \u0635\u062D"),
  (0xFC21, "\u0635\u0645 \u0636\u062C \u0636\u062D \u0636\u062E \u0636\u0645"),
  (0xFC26, "\u0637\u062D \u0637\u0645 \u0638\u0645 \u0639\u062C \u0639\u0645"),
  (0xFC2B, "\u063A\u062C \u063A\u0645 \u0641\u062C \u0641\u062D \u0641\u062E"),
  (0xFC30, "\u0641\u0645 \u0641\u0649 \u0641\u064A \u0642\u062D \u0642\u0645"),
  (0xFC35, "\u0642\u0649 \u0642\u064A \u0643\u0627 \u0643\u062C \u0643\u062D"),
  (0xFC3A, "\u0643\u062E \u0643\u0644 \u0643\u0645 \u0643\u0649 \u0643\u064A"),
  (0xFC3F, "\u0644\u062C \u0644\u062D \u0644\u062E \u0644\u0645 \u0644\u0649"),
  (0xFC44, "\u0644\u064A \u0645\u062C \u0645\u062D \u0645\u062E \u0645\u0645"),
  (0xFC49, "\u0645\u0649 \u0645\u064A \u0646\u062C \u0646\u062D \u0646\u062E"),
  (0xFC4E, "\u0646\u0645 \u0646\u0649 \u0646\u064A \u0647\u062C \u0647\u0645"),
  (0xFC53, "\u0647\u0649 \u0647\u064A \u064A\u062C \u064A\u062D \u064A\u062E"),
  (0xFC58, "\u064A\u0645 \u064A\u0649 \u064A\u064A \u0630\u0670 \u0631\u0670"),
  (0xFC5D, "\u0649\u0670"),
  (0xFC64, "\u0626\u0631 \u0626\u0632 \u0626\u0645 \u0626\u0646 \u0626\u0649"),
  (0xFC69, "\u0626\u064A \u0628\u0631 \u0628\u0632 \u0628\u0645 \u0628\u0646"),
  (0xFC6E, "\u0628\u0649 \u0628\u064A \u062A\u0631 \u062A\u0632 \u062A\u0645"),
  (0xFC73, "\u062A\u0646 \u062A\u0649 \u062A\u064A \u062B\u0631 \u062B\u0632"),
  (0xFC78, "\u062B\u0645 \u062B\u0646 \u062B\u0649 \u062B\u064A \u0641\u0649"),
  (0xFC7D, "\u0641\u064A \u0642\u0649 \u0642\u064A \u0643\u0627 \u0643\u0644"),
  (0xFC82, "\u0643\u0645 \u0643\u0649 \u0643\u064A \u0644\u0645 \u0644\u0649"),
  (0xFC87, "\u0644\u064A \u0645\u0627 \u0645\u0645 \u0646\u0631 \u0646\u0632"),
  (0xFC8C, "\u0646\u0645 \u0646\u0646 \u0646\u0649 \u0646\u064A \u0649\u0670"),
  (0xFC91, "\u064A\u0631 \u064A\u0632 \u064A\u0645 \u064A\u0646 \u064A\u0649"),
  (0xFC96, "\u064A\u064A \u0626\u062C \u0626\u062D \u0626\u062E \u0626\u0645"),
  (0xFC9B, "\u0626\u0647 \u0628\u062C \u0628\u062D \u0628\u062E \u0628\u0645"),
  (0xFCA0, "\u0628\u0647 \u062A\u062C \u062A\u062D \u062A\u062E \u062A\u0645"),
  (0xFCA5, "\u062A\u0647 \u062B\u0645 \u062C\u062D \u062C\u0645 \u062D\u062C"),
  (0xFCAA, "\u062D\u0645 \u062E\u062C \u062E\u0645 \u0633\u062C \u0633\u062D"),
  (0xFCAF, "\u0633\u062E \u0633\u0645 \u0635\u062D \u0635\u062E \u0635\u0645"),
  (0xFCB4, "\u0636\u062C \u0636\u062D \u0636\u062E \u0636\u0645 \u0637\u062D"),
  (0xFCB9, "\u0638\u0645 \u0639\u062C \u0639\u0645 \u063A\u062C \u063A\u0645"),
  (0xFCBE, "\u0641\u062C \u0641\u062D \u0641\u062E \u0641\u0645 \u0642\u062D"),
  (0xFCC3, "\u0642\u0645 \u0643\u062C \u0643\u062D \u0643\u062E \u0643\u0644"),
  (0xFCC8, "\u0643\u0645 \u0644\u062C \u0644\u062D \u0644\u062E \u0644\u0645"),
  (0xFCCD, "\u0644\u0647 \u0645\u062C \u0645\u062D \u0645\u062E \u0645\u0645"),
  (0xFCD2, "\u0646\u062C \u0646\u062D \u0646\u062E \u0646\u0645 \u0646\u0647"),
  (0xFCD7, "\u0647\u062C \u0647\u0645 \u0647\u0670 \u064A\u062C \u064A\u062D"),
  (0xFCDC, "\u064A\u062E \u064A\u0645 \u064A\u0647 \u0626\u0645 \u0626\u0647"),
  (0xFCE1, "\u0628\u0645 \u0628\u0647 \u062A\u0645 \u062A\u0647 \u062B\u0645"),
  (0xFCE6, "\u062B\u0647 \u0633\u0645 \u0633\u0647 \u0634\u0645 \u0634\u0647"),
  (0xFCEB, "\u0643\u0644 \u0643\u0645 \u0644\u0645 \u0646\u0645 \u0646\u0647"),
  (0xFCF0, "\u064A\u0645 \u064A\u0647 \u0640\u064E\u0651 \u0640\u064F\u0651"),
  (0xFCF4, "\u0640\u0650\u0651 \u0637\u0649 \u0637\u064A \u0639\u0649 \u0639\u064A"),
  (0xFCF9, "\u063A\u0649 \u063A\u064A \u0633\u0649 \u0633\u064A \u0634\u0649"),
  (0xFCFE, "\u0634\u064A \u062D\u0649 \u062D\u064A \u062C\u0649 \u062C\u064A"),
  (0xFD03, "\u062E\u0649 \u062E\u064A \u0635\u0649 \u0635\u064A \u0636\u0649"),
  (0xFD08, "\u0636\u064A \u0634\u062C \u0634\u062D \u0634\u062E \u0634\u0645"),
  (0xFD0D, "\u0634\u0631 \u0633\u0631 \u0635\u0631 \u0636\u0631 \u0637\u0649"),
  (0xFD12, "\u0637\u064A \u0639\u0649 \u0639\u064A \u063A\u0649 \u063A\u064A"),
  (0xFD17, "\u0633\u0649 \u0633\u064A \u0634\u0649 \u0634\u064A \u062D\u0649"),
  (0xFD1C, "\u062D\u064A \u062C\u0649 \u062C\u064A \u062E\u0649 \u062E\u064A"),
  (0xFD21, "\u0635\u0649 \u0635\u064A \u0636\u0649 \u0636\u064A \u0634\u062C"),
  (0xFD26, "\u0634\u062D \u0634\u062E \u0634\u0645 \u0634\u0631 \u0633\u0631"),
  (0xFD2B, "\u0635\u0631 \u0636\u0631 \u0634\u062C \u0634\u062D \u0634\u062E"),
  (0xFD30, "\u0634\u0645 \u0633\u0647 \u0634\u0647 \u0637\u0645 \u0633\u062C"),
  (0xFD35, "\u0633\u062D \u0633\u062E \u0634\u062C \u0634\u062D \u0634\u062E"),
  (0xFD3A, "\u0637\u0645 \u0638\u0645 \u0627\u064B \u0627\u064B"),
  (0xFD50, "\u062A\u062C\u0645 \u062A\u062D\u062C \u062A\u062D\u062C"),
  (0xFD53, "\u062A\u062D\u0645 \u062A\u062E\u0645 \u062A\u0645\u062C"),
  (0xFD56, "\u062A\u0645\u062D \u062A\u0645\u062E \u062C\u0645\u062D"),
  (0xFD59, "\u062C\u0645\u062D \u062D\u0645\u064A \u062D\u0645\u0649"),
  (0xFD5C, "\u0633\u062D\u062C \u0633\u062C\u062D \u0633\u062C\u0649"),
  (0xFD5F, "\u0633\u0645\u062D \u0633\u0645\u062D \u0633\u0645\u062C"),
  (0xFD62, "\u0633\u0645\u0645 \u0633\u0645\u0645 \u0635\u062D\u062D"),
  (0xFD65, "\u0635\u062D\u062D \u0635\u0645\u0645 \u0634\u062D\u0645"),
  (0xFD68, "\u0634\u062D\u0645 \u0634\u062C\u064A \u0634\u0645\u062E"),
  (0xFD6B, "\u0634\u0645\u062E \u0634\u0645\u0645 \u0634\u0645\u0645"),
  (0xFD6E, "\u0636\u062D\u0649 \u0636\u062E\u0645 \u0636\u062E\u0645"),
  (0xFD71, "\u0637\u0645\u062D \u0637\u0645\u062D \u0637\u0645\u0645"),
  (0xFD74, "\u0637\u0645\u064A \u0639\u062C\u0645 \u0639\u0645\u0645"),
  (0xFD77, "\u0639\u0645\u0645 \u0639\u0645\u0649 \u063A\u0645\u0645"),
  (0xFD7A, "\u063A\u0645\u064A \u063A\u0645\u0649 \u0641\u062E\u0645"),
  (0xFD7D, "\u0641\u062E\u0645 \u0642\u0645\u062D \u0642\u0645\u0645"),
  (0xFD80, "\u0644\u062D\u0645 \u0644\u062D\u064A \u0644\u062D\u0649"),
  (0xFD83, "\u0644\u062C\u062C \u0644\u062C\u062C \u0644\u062E\u0645"),
  (0xFD86, "\u0644\u062E\u0645 \u0644\u0645\u062D \u0644\u0645\u062D"),
  (0xFD89, "\u0645\u062D\u062C \u0645\u062D\u0645 \u0645\u062D\u064A"),
  (0xFD8C, "\u0645\u062C\u062D \u0645\u062C\u0645 \u0645\u062E\u062C"),
  (0xFD8F, "\u0645\u062E\u0645   \u0645\u062C\u062E \u0647\u0645\u062C"),
  (0xFD94, "\u0647\u0645\u0645 \u0646\u062D\u0645 \u0646\u062D\u0649"),
  (0xFD97, "\u0646\u062C\u0645 \u0646\u062C\u0645 \u0646\u062C\u0649"),
  (0xFD9A, "\u0646\u0645\u064A \u0646\u0645\u0649 \u064A\u0645\u0645"),
  (0xFD9D, "\u064A\u0645\u0645 \u0628\u062E\u064A \u062A\u062C\u064A"),
  (0xFDA0, "\u062A\u062C\u0649 \u062A\u062E\u064A \u062A\u062E\u0649"),
  (0xFDA3, "\u062A\u0645\u064A \u062A\u0645\u0649 \u062C\u0645\u064A"),
  (0xFDA6, "\u062C\u062D\u0649 \u062C\u0645\u0649 \u0633\u062E\u0649"),
  (0xFDA9, "\u0635\u062D\u064A \u0634\u062D\u064A \u0636\u062D\u064A"),
  (0xFDAC, "\u0644\u062C\u064A \u0644\u0645\u064A \u064A\u062D\u064A"),
  (0xFDAF, "\u064A\u062C\u064A \u064A\u0645\u064A \u0645\u0645\u064A"),
  (0xFDB2, "\u0642\u0645\u064A \u0646\u062D\u064A \u0642\u0645\u062D"),
  (0xFDB5, "\u0644\u062D\u0645 \u0639\u0645\u064A \u0643\u0645\u064A"),
  (0xFDB8, "\u0646\u062C\u062D \u0645\u062E\u064A \u0644\u062C\u0645"),
  (0xFDBB, "\u0643\u0645\u0645 \u0644\u062C\u0645 \u0646\u062C\u062D"),
  (0xFDBE, "\u062C\u062D\u064A \u062D\u062C\u064A \u0645\u062C\u064A"),
  (0xFDC1, "\u0641\u0645\u064A \u0628\u062D\u064A \u0643\u0645\u0645"),
  (0xFDC4, "\u0639\u062C\u0645 \u0635\u0645\u0645 \u0633\u062E\u064A"),
  (0xFDC7, "\u0646\u062C\u064A"),
  (0xFDF0, "\u0635\u0644\u06D2 \u0642\u0644\u06D2 \u0627\u0644\u0644\u0647"),
  (0xFDF3, "\u0627\u0643\u0628\u0631 \u0645\u062D\u0645\u062F"),
  (0xFDF5, "\u0635\u0644\u0639\u0645 \u0631\u0633\u0648\u0644"),
  (0xFDF7, "\u0639\u0644\u064A\u0647 \u0648\u0633\u0644\u0645 \u0635\u0644\u0649"),
  (0xFDFC, "\u0631\u06CC\u0627\u0644"), (0xFE10, ", 、  : ; ! ? 〖 〗"),
  (0xFE31, "— – _ _ ( ) \x7b \x7d 〔 〕 【 】 《 》 〈 〉"), (0xFE47, "[ ]"),
  (0xFE4D, "_ _ _ , 、   ; : ? ! — ( ) \x7b \x7d 〔 〕 # & * + - < > =  \\ $ % @"),
  (0xFE71, "\u0640\u064B"),
  (0xFE77, "\u0640\u064E  \u0640\u064F  \u0640\u0650  \u0640\u0651  \u0640\u0652"),
  (0xFE80, "\u0621 \u0622 \u0622 \u0623 \u0623 \u0624 \u0624 \u0625 \u0625 \u0626"),
  (0xFE8A, "\u0626 \u0626 \u0626 \u0627 \u0627 \u0628 \u0628 \u0628 \u0628 \u0629"),
  (0xFE94, "\u0629 \u062A \u062A \u062A \u062A \u062B \u062B \u062B \u062B \u062C"),
  (0xFE9E, "\u062C \u062C \u062C \u062D \u062D \u062D \u062D \u062E \u062E \u062E"),
  (0xFEA8, "\u062E \u062F \u062F \u0630 \u0630 \u0631 \u0631 \u0632 \u0632 \u0633"),
  (0xFEB2, "\u0633 \u0633 \u0633 \u0634 \u0634 \u0634 \u0634 \u0635 \u0635 \u0635"),
  (0xFEBC, "\u0635 \u0636 \u0636 \u0636 \u0636 \u0637 \u0637 \u0637 \u0637 \u0638"),
  (0xFEC6, "\u0638 \u0638 \u0638 \u0639 \u0639 \u0639 \u0639 \u063A \u063A \u063A"),
  (0xFED0, "\u063A \u0641 \u0641 \u0641 \u0641 \u0642 \u0642 \u0642 \u0642 \u0643"),
  (0xFEDA, "\u0643 \u0643 \u0643 \u0644 \u0644 \u0644 \u0644 \u0645 \u0645 \u0645"),
  (0xFEE4, "\u0645 \u0646 \u0646 \u0646 \u0646 \u0647 \u0647 \u0647 \u0647 \u0648"),
  (0xFEEE, "\u0648 \u0649 \u0649 \u064A \u064A \u064A \u064A \u0644\u0622"),
  (0xFEF6, "\u0644\u0622 \u0644\u0623 \u0644\u0623 \u0644\u0625 \u0644\u0625"),
  (0xFEFB, "\u0644\u0627 \u0644\u0627"),
  (0xFF5F, "⦅ ⦆ . 「 」 、 ・ ヲ ァ ィ ゥ ェ ォ ャ ュ ョ ッ ー ア イ ウ エ オ カ キ ク ケ コ サ シ ス セ ソ タ チ"),
  (0xFF82, "ツ テ ト"), (0xFF8B, "ヒ フ ヘ ホ"), (0xFF94, "ヤ ユ"),
  (0xFF9C, "ワ ン \u3099 \u309A  ᄀ ᄁ ᆪ ᄂ ᆬ ᆭ ᄃ ᄄ ᄅ"), (0xFFB0, "ᄚ ᄆ ᄇ ᄈ ᄡ"),
  (0xFFDA, "ᅳ ᅴ ᅵ    ¢ £ ¬  ¦ ¥ ₩  │"), (0xFFED, "■ ○"), (0x10594, "𐖻 𐖼"),
  (0x10781, "ː ˑ æ ʙ ɓ  ʣ ꭦ ʥ ʤ ɖ ɗ ᶑ ɘ ɞ ʩ ɤ ɢ ɠ ʛ ħ ʜ ɧ ʄ ʪ ʫ ɬ 𝼄 ꞎ ɮ 𝼅 ʎ 𝼆 ø ɶ ɷ"),
  (0x107A5, "q ɺ 𝼈 ɽ ɾ ʀ ʨ ʦ ꭧ ʧ ʈ ⱱ  ʏ ʡ ʢ ʘ ǀ ǁ ǂ 𝼊 𝼞"), (0x1D15E, "𝅗𝅥 𝅘𝅥 𝅘𝅥𝅮 𝅘𝅥𝅯 𝅘𝅥𝅰 𝅘𝅥𝅱 𝅘𝅥𝅲"),
  (0x1D1BB, "𝆹𝅥 𝆺𝅥 𝆹𝅥𝅮 𝆺𝅥𝅮 𝆹𝅥𝅯 𝆺𝅥𝅯"), (0x1D49C, "a  c d   g   j k"),
  (0x1D4BE, "i  k  m    q  s  u  w  y"), (0x1D504, "a b"), (0x1D538, "a b"), (0x1D546, "o"),
  (0x1D6A4, "ı ȷ"), (0x1D6B9, "θ"), (0x1D6C1, "∇"), (0x1D6D3, "σ"), (0x1D6DB, "∂ ε θ κ φ ρ π"),
  (0x1D6F3, "θ"), (0x1D6FB, "∇"), (0x1D70D, "σ"), (0x1D715, "∂ ε θ κ φ ρ π"), (0x1D72D, "θ"),
  (0x1D735, "∇"), (0x1D747, "σ"), (0x1D74F, "∂ ε θ κ φ ρ π"), (0x1D767, "θ"), (0x1D76F, "∇"),
  (0x1D781, "σ"), (0x1D789, "∂ ε θ κ φ ρ π"), (0x1D7A1, "θ"), (0x1D7A9, "∇"), (0x1D7BB, "σ"),
  (0x1D7C3, "∂ ε θ κ φ ρ π ϝ ϝ"), (0x1E039, "к л м"), (0x1E047, "ы э ю ꚉ ә і ј ө ү ӏ"),
  (0x1E05A, "к л о п с"), (0x1E065, "ъ ы ґ і ѕ џ ҫ ꙑ ұ"),
  (0x1EE00, "\u0627 \u0628 \u062C \u062F  \u0648 \u0632 \u062D \u0637 \u064A"),
  (0x1EE0E, "\u0633 \u0639 \u0641 \u0635 \u0642 \u0631 \u0634 \u062A \u062B \u062E"),
  (0x1EE18, "\u0630 \u0636 \u0638 \u063A \u066E \u06BA \u06A1 \u066F  \u0628 \u062C"),
  (0x1EE24, "\u0647   \u062D  \u064A"),
  (0x1EE2E, "\u0633 \u0639 \u0641 \u0635 \u0642  \u0634 \u062A \u062B \u062E"),
  (0x1EE39, "\u0636  \u063A"), (0x1EE42, "\u062C"),
  (0x1EE47, "\u062D  \u064A  \u0644  \u0646 \u0633 \u0639  \u0635 \u0642  \u0634"),
  (0x1EE57, "\u062E  \u0636  \u063A  \u06BA  \u066F  \u0628 \u062C  \u0647   \u062D"),
  (0x1EE68, "\u0637 \u064A \u0643  \u0645 \u0646 \u0633 \u0639 \u0641 \u0635 \u0642"),
  (0x1EE74, "\u0634 \u062A \u062B \u062E  \u0636 \u0638 \u063A \u066E  \u06A1"),
  (0x1EE80, "\u0627 \u0628 \u062C \u062F \u0647 \u0648 \u0632 \u062D \u0637 \u064A"),
  (0x1EE8B, "\u0644 \u0645 \u0646 \u0633 \u0639 \u0641 \u0635 \u0642 \u0631 \u0634"),
  (0x1EE95, "\u062A \u062B \u062E \u0630 \u0636 \u0638 \u063A"),
  (0x1EEA1, "\u0628 \u062C \u062F  \u0648 \u0632 \u062D \u0637 \u064A  \u0644"),
  (0x1EEAC, "\u0645 \u0646 \u0633 \u0639 \u0641 \u0635 \u0642 \u0631 \u0634 \u062A"),
  (0x1EEB6, "\u062B \u062E \u0630 \u0636 \u0638 \u063A"),
  (0x1F101, "0, 1, 2, 3, 4, 5, 6, 7, 8, 9,"),
  (0x1F110, "(a) (b) (c) (d) (e) (f) (g) (h) (i) (j) (k) (l) (m) (n) (o) (p) (q)"),
  (0x1F121, "(r) (s) (t) (u) (v) (w) (x) (y) (z) 〔s〕 c r cd wz"), (0x1F14A, "hv mv sd ss ppv wc"),
  (0x1F16A, "mc md mr"), (0x1F190, "dj"), (0x1F200, "ほか ココ サ"),
  (0x1F210, "手 字 双 デ 二 多 解 天 交 映 無 料 前 後 再 新 初 終 生 販 声 吹 演 投 捕 一 三 遊 左 中 右 指 走 打 禁"),
  (0x1F233, "空 合 満 有 月 申 割 営 配"), (0x1F240, "〔本〕 〔三〕 〔二〕 〔安〕 〔点〕 〔打〕 〔盗〕 〔勝〕 〔敗〕"),
  (0x1F250, "得 可"),
  (0x2F800, "丽 丸 乁 𠄢 你 侮 侻 倂 偺 備 僧 像 㒞 𠘺 免 兔 兤 具 𠔜 㒹 內 再 𠕋 冗 冤 仌 冬 况 𩇟 凵 刃 㓟 刻 剆 割"),
  (0x2F823, "剷 㔕 勇 勉 勤 勺 包 匆 北 卉 卑 博 即 卽 卿 卿 卿 𠨬 灰 及 叟 𠭣 叫 叱 吆 咞 吸 呈 周 咢 哶 唐 啓 啣 善"),
  (0x2F846, "善 喙 喫 喳 嗂 圖 嘆 圗 噑 噴 切 壮 城 埴 堍 型 堲 報 墬 𡓤 売 壷 夆 多 夢 奢 𡚨 𡛪 姬 娛 娧 姘 婦 㛮 㛼"),
  (0x2F869, "嬈 嬾 嬾 𡧈 寃 寘 寧 寳 𡬘 寿 将 当 尢 㞁 屠 屮 峀 岍 𡷤 嵃 𡷦 嵮 嵫 嵼 巡 巢 㠯 巽 帨 帽 幩 㡢 𢆃 㡼 庰"),
  (0x2F88C, "庳 庶 廊 𪎒 廾 𢌱 𢌱 舁 弢 弢 㣇 𣊸 𦇚 形 彫 㣣 徚 忍 志 忹 悁 㤺 㤜 悔 𢛔 惇 慈 慌 慎 慌 慺 憎 憲 憤 憯"),
  (0x2F8AF, "懞 懲 懶 成 戛 扝 抱 拔 捐 𢬌 挽 拼 捨 掃 揤 𢯱 搢 揅 掩 㨮 摩 摾 撝 摷 㩬 敏 敬 𣀊 旣 書 晉 㬙 暑 㬈 㫤"),
  (0x2F8D2, "冒 冕 最 暜 肭 䏙 朗 望 朡 杞 杓 𣏃 㭉 柺 枅 桒 梅 𣑭 梎 栟 椔 㮝 楂 榣 槪 檨 𣚣 櫛 㰘 次 𣢧 歔 㱎 歲 殟"),
  (0x2F8F5, "殺 殻 𣪍 𡴋 𣫺 汎 𣲼 沿 泍 汧 洖 派 海 流 浩 浸 涅 𣴞 洴 港 湮 㴳 滋 滇 𣻑 淹 潮 𣽞 𣾎 濆 瀹 瀞 瀛 㶖 灊"),
  (0x2F918, "災 灷 炭 𠔥 煅 𤉣 熜 𤎫 爨 爵 牐 𤘈 犀 犕 𤜵 𤠔 獺 王 㺬 玥 㺸 㺸 瑇 瑜 瑱 璅 瓊 㼛 甤 𤰶 甾 𤲒 異 𢆟 瘐"),
  (0x2F93B, "𤾡 𤾸 𥁄 㿼 䀈 直 𥃳 𥃲 𥄙 𥄳 眞 真 真 睊 䀹 瞋 䁆 䂖 𥐝 硎 碌 磌 䃣 𥘦 祖 𥚚 𥛅 福 秫 䄯 穀 穊 穏 𥥼 𥪧"),
  (0x2F95E, "𥪧 竮 䈂 𥮫 篆 築 䈧 𥲀 糒 䊠 糨 糣 紀 𥾆 絣 䌁 緇 縂 繅 䌴 𦈨 𦉇 䍙 𦋙 罺 𦌾 羕 翺 者 𦓚 𦔣 聠 𦖨 聰 𣍟"),
  (0x2F981, "䏕 育 脃 䐋 脾 媵 𦞧 𦞵 𣎓 𣎜 舁 舄 辞 䑫 芑 芋 芝 劳 花 芳 芽 苦 𦬼 若 茝 荣 莭 茣 莽 菧 著 荓 菊 菌 菜"),
  (0x2F9A4, "𦰶 𦵫 𦳕 䔫 蓱 蓳 蔖 𧏊 蕤 𦼬 䕝 䕡 𦾱 𧃒 䕫 虐 虜 虧 虩 蚩 蚈 蜎 蛢 蝹 蜨 蝫 螆 䗗 蟡 蠁 䗹 衠 衣 𧙧 裗"),
  (0x2F9C7, "裞 䘵 裺 㒻 𧢮 𧥦 䚾 䛇 誠 諭 變 豕 𧲨 貫 賁 贛 起 𧼯 𠠄 跋 趼 跰 𠣞 軔 輸 𨗒 𨗭 邔 郱 鄑 𨜮 鄛 鈸 鋗 鋘"),
  (0x2F9EA, "鉼 鏹 鐕 𨯺 開 䦕 閷 𨵷 䧦 雃 嶲 霣 𩅅 𩈚 䩮 䩶 韠 𩐊 䪲 𩒖 頋 頋 頩 𩖶 飢 䬳 餩 馧 駂 駾 䯎 𩬰 鬒 鱀 鳽"),
  (0x2FA0D, "䳎 䳭 鵧 𪃎 䳸 𪄅 𪈎 𪊑 麻 䵖 黹 黾 鼅 鼏 鼖 鼻 𪘀")]

/-- The character that one of several alike is folded to. -/
def shift? (n : Nat) : Option Char :=
  (lastUpTo? shifts n 0 shifts.size).bind fun (first, last, step, target) =>
    if n ≤ last ∧ (n - first) % step = 0 then some (Char.ofNat (target + (n - first))) else none

/-- What a character is folded to, if a name may be given with it. -/
def fold? (c : Char) : Option (List Char) :=
  if c.toNat < 0x80 then some [c.toLower]
  else if ! known.has c then none
  else if ignored.has c then some []
  else some (((shift? c.toNat).map ([·])).getD ((words.word? c.toNat).getD [c]))

end HomeConsole.Name
