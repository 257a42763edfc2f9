/-
Stretches of characters that names replace by a stretch of others, such as the capitals of
a script by its small letters.
-/
import ResultPages.CodePoint.Shift

namespace ResultPages

namespace CodePoint

set_option maxRecDepth 4096 in
/-- The stretches of letters of both cases, of width variants and of styled letters. -/
def shifts : List Shift := [
  ⟨⟨0x41, 0x5A⟩, 1, 0x61⟩, ⟨⟨0xB2, 0xB3⟩, 1, 0x32⟩, ⟨⟨0xC0, 0xD6⟩, 1, 0xE0⟩,
  ⟨⟨0xD8, 0xDE⟩, 1, 0xF8⟩, ⟨⟨0x100, 0x12E⟩, 2, 0x101⟩, ⟨⟨0x134, 0x136⟩, 2, 0x135⟩,
  ⟨⟨0x139, 0x13D⟩, 2, 0x13A⟩, ⟨⟨0x141, 0x147⟩, 2, 0x142⟩, ⟨⟨0x14A, 0x176⟩, 2, 0x14B⟩,
  ⟨⟨0x179, 0x17D⟩, 2, 0x17A⟩, ⟨⟨0x182, 0x184⟩, 2, 0x183⟩, ⟨⟨0x189, 0x18A⟩, 1, 0x256⟩,
  ⟨⟨0x1A0, 0x1A4⟩, 2, 0x1A1⟩, ⟨⟨0x1B1, 0x1B2⟩, 1, 0x28A⟩, ⟨⟨0x1B3, 0x1B5⟩, 2, 0x1B4⟩,
  ⟨⟨0x1CD, 0x1DB⟩, 2, 0x1CE⟩, ⟨⟨0x1DE, 0x1EE⟩, 2, 0x1DF⟩, ⟨⟨0x1F8, 0x21E⟩, 2, 0x1F9⟩,
  ⟨⟨0x222, 0x232⟩, 2, 0x223⟩, ⟨⟨0x246, 0x24E⟩, 2, 0x247⟩, ⟨⟨0x340, 0x341⟩, 1, 0x300⟩,
  ⟨⟨0x370, 0x372⟩, 2, 0x371⟩, ⟨⟨0x388, 0x38A⟩, 1, 0x3AD⟩, ⟨⟨0x38E, 0x38F⟩, 1, 0x3CD⟩,
  ⟨⟨0x391, 0x3A1⟩, 1, 0x3B1⟩, ⟨⟨0x3A3, 0x3AB⟩, 1, 0x3C3⟩, ⟨⟨0x3D8, 0x3EE⟩, 2, 0x3D9⟩,
  ⟨⟨0x3FD, 0x3FF⟩, 1, 0x37B⟩, ⟨⟨0x400, 0x40F⟩, 1, 0x450⟩, ⟨⟨0x410, 0x42F⟩, 1, 0x430⟩,
  ⟨⟨0x460, 0x480⟩, 2, 0x461⟩, ⟨⟨0x48A, 0x4BE⟩, 2, 0x48B⟩, ⟨⟨0x4C1, 0x4CD⟩, 2, 0x4C2⟩,
  ⟨⟨0x4D0, 0x52E⟩, 2, 0x4D1⟩, ⟨⟨0x531, 0x556⟩, 1, 0x561⟩, ⟨⟨0x10A0, 0x10C5⟩, 1, 0x2D00⟩,
  ⟨⟨0x13F8, 0x13FD⟩, 1, 0x13F0⟩, ⟨⟨0x1C83, 0x1C84⟩, 1, 0x441⟩, ⟨⟨0x1C90, 0x1CBA⟩, 1, 0x10D0⟩,
  ⟨⟨0x1CBD, 0x1CBF⟩, 1, 0x10FD⟩, ⟨⟨0x1D2E, 0x1D30⟩, 2, 0x62⟩, ⟨⟨0x1D33, 0x1D3A⟩, 1, 0x67⟩,
  ⟨⟨0x1D40, 0x1D41⟩, 1, 0x74⟩, ⟨⟨0x1D44, 0x1D45⟩, 1, 0x250⟩, ⟨⟨0x1D48, 0x1D49⟩, 1, 0x64⟩,
  ⟨⟨0x1D4B, 0x1D4C⟩, 1, 0x25B⟩, ⟨⟨0x1D54, 0x1D55⟩, 1, 0x1D16⟩, ⟨⟨0x1D57, 0x1D58⟩, 1, 0x74⟩,
  ⟨⟨0x1D5D, 0x1D5F⟩, 1, 0x3B2⟩, ⟨⟨0x1D60, 0x1D61⟩, 1, 0x3C6⟩, ⟨⟨0x1D64, 0x1D65⟩, 1, 0x75⟩,
  ⟨⟨0x1D66, 0x1D67⟩, 1, 0x3B2⟩, ⟨⟨0x1D69, 0x1D6A⟩, 1, 0x3C6⟩, ⟨⟨0x1DA4, 0x1DA6⟩, 1, 0x268⟩,
  ⟨⟨0x1DAE, 0x1DB1⟩, 1, 0x272⟩, ⟨⟨0x1DB3, 0x1DB4⟩, 1, 0x282⟩, ⟨⟨0x1DB6, 0x1DB7⟩, 1, 0x289⟩,
  ⟨⟨0x1DB9, 0x1DBA⟩, 1, 0x28B⟩, ⟨⟨0x1DBC, 0x1DBE⟩, 1, 0x290⟩, ⟨⟨0x1E00, 0x1E94⟩, 2, 0x1E01⟩,
  ⟨⟨0x1EA0, 0x1EFE⟩, 2, 0x1EA1⟩, ⟨⟨0x1F08, 0x1F0F⟩, 1, 0x1F00⟩, ⟨⟨0x1F18, 0x1F1D⟩, 1, 0x1F10⟩,
  ⟨⟨0x1F28, 0x1F2F⟩, 1, 0x1F20⟩, ⟨⟨0x1F38, 0x1F3F⟩, 1, 0x1F30⟩, ⟨⟨0x1F48, 0x1F4D⟩, 1, 0x1F40⟩,
  ⟨⟨0x1F59, 0x1F5F⟩, 2, 0x1F51⟩, ⟨⟨0x1F68, 0x1F6F⟩, 1, 0x1F60⟩, ⟨⟨0x1FB8, 0x1FB9⟩, 1, 0x1FB0⟩,
  ⟨⟨0x1FD8, 0x1FD9⟩, 1, 0x1FD0⟩, ⟨⟨0x1FE8, 0x1FE9⟩, 1, 0x1FE0⟩, ⟨⟨0x2074, 0x2079⟩, 1, 0x34⟩,
  ⟨⟨0x207D, 0x207E⟩, 1, 0x28⟩, ⟨⟨0x2080, 0x2089⟩, 1, 0x30⟩, ⟨⟨0x208D, 0x208E⟩, 1, 0x28⟩,
  ⟨⟨0x2096, 0x2099⟩, 1, 0x6B⟩, ⟨⟨0x209B, 0x209C⟩, 1, 0x73⟩, ⟨⟨0x210A, 0x210B⟩, 1, 0x67⟩,
  ⟨⟨0x2113, 0x2115⟩, 2, 0x6C⟩, ⟨⟨0x2119, 0x211B⟩, 1, 0x70⟩, ⟨⟨0x212C, 0x212D⟩, 1, 0x62⟩,
  ⟨⟨0x2130, 0x2131⟩, 1, 0x65⟩, ⟨⟨0x2135, 0x2138⟩, 1, 0x5D0⟩, ⟨⟨0x2146, 0x2147⟩, 1, 0x64⟩,
  ⟨⟨0x2148, 0x2149⟩, 1, 0x69⟩, ⟨⟨0x216D, 0x216E⟩, 1, 0x63⟩, ⟨⟨0x217D, 0x217E⟩, 1, 0x63⟩,
  ⟨⟨0x2329, 0x232A⟩, 1, 0x3008⟩, ⟨⟨0x2460, 0x2468⟩, 1, 0x31⟩, ⟨⟨0x24B6, 0x24CF⟩, 1, 0x61⟩,
  ⟨⟨0x24D0, 0x24E9⟩, 1, 0x61⟩, ⟨⟨0x2C00, 0x2C2F⟩, 1, 0x2C30⟩, ⟨⟨0x2C67, 0x2C6B⟩, 2, 0x2C68⟩,
  ⟨⟨0x2C7E, 0x2C7F⟩, 1, 0x23F⟩, ⟨⟨0x2C80, 0x2CE2⟩, 2, 0x2C81⟩, ⟨⟨0x2CEB, 0x2CED⟩, 2, 0x2CEC⟩,
  ⟨⟨0x3039, 0x303A⟩, 1, 0x5344⟩, ⟨⟨0x3131, 0x3132⟩, 1, 0x1100⟩, ⟨⟨0x3135, 0x3136⟩, 1, 0x11AC⟩,
  ⟨⟨0x3137, 0x3139⟩, 1, 0x1103⟩, ⟨⟨0x313A, 0x313F⟩, 1, 0x11B0⟩, ⟨⟨0x3141, 0x3143⟩, 1, 0x1106⟩,
  ⟨⟨0x3145, 0x314E⟩, 1, 0x1109⟩, ⟨⟨0x314F, 0x3163⟩, 1, 0x1161⟩, ⟨⟨0x3165, 0x3166⟩, 1, 0x1114⟩,
  ⟨⟨0x3167, 0x3168⟩, 1, 0x11C7⟩, ⟨⟨0x3171, 0x3172⟩, 1, 0x111D⟩, ⟨⟨0x3174, 0x3175⟩, 1, 0x1122⟩,
  ⟨⟨0x3178, 0x317C⟩, 1, 0x112B⟩, ⟨⟨0x3182, 0x3183⟩, 1, 0x11F1⟩, ⟨⟨0x3184, 0x3186⟩, 1, 0x1157⟩,
  ⟨⟨0x3187, 0x3188⟩, 1, 0x1184⟩, ⟨⟨0x318A, 0x318B⟩, 1, 0x1191⟩, ⟨⟨0x3261, 0x3262⟩, 1, 0x1102⟩,
  ⟨⟨0x3263, 0x3265⟩, 1, 0x1105⟩, ⟨⟨0x3267, 0x3268⟩, 1, 0x110B⟩, ⟨⟨0x3269, 0x326D⟩, 1, 0x110E⟩,
  ⟨⟨0x32D4, 0x32D5⟩, 1, 0x30AA⟩, ⟨⟨0x32E4, 0x32E9⟩, 1, 0x30CA⟩, ⟨⟨0x32EE, 0x32F2⟩, 1, 0x30DE⟩,
  ⟨⟨0x32F5, 0x32FA⟩, 1, 0x30E8⟩, ⟨⟨0x32FB, 0x32FE⟩, 1, 0x30EF⟩, ⟨⟨0xA640, 0xA66C⟩, 2, 0xA641⟩,
  ⟨⟨0xA680, 0xA69A⟩, 2, 0xA681⟩, ⟨⟨0xA722, 0xA72E⟩, 2, 0xA723⟩, ⟨⟨0xA732, 0xA76E⟩, 2, 0xA733⟩,
  ⟨⟨0xA779, 0xA77B⟩, 2, 0xA77A⟩, ⟨⟨0xA77E, 0xA786⟩, 2, 0xA77F⟩, ⟨⟨0xA790, 0xA792⟩, 2, 0xA791⟩,
  ⟨⟨0xA796, 0xA7A8⟩, 2, 0xA797⟩, ⟨⟨0xA7B4, 0xA7C2⟩, 2, 0xA7B5⟩, ⟨⟨0xA7C7, 0xA7C9⟩, 2, 0xA7C8⟩,
  ⟨⟨0xA7CC, 0xA7DA⟩, 2, 0xA7CD⟩, ⟨⟨0xAB70, 0xABBF⟩, 1, 0x13A0⟩, ⟨⟨0xFA52, 0xFA53⟩, 1, 0x798D⟩,
  ⟨⟨0xFB22, 0xFB23⟩, 1, 0x5D3⟩, ⟨⟨0xFB24, 0xFB26⟩, 1, 0x5DB⟩, ⟨⟨0xFB7D, 0xFB7E⟩, 1, 0x686⟩,
  ⟨⟨0xFB9F, 0xFBA0⟩, 1, 0x6BA⟩, ⟨⟨0xFBA5, 0xFBA6⟩, 1, 0x6C0⟩, ⟨⟨0xFBAF, 0xFBB0⟩, 1, 0x6D2⟩,
  ⟨⟨0xFE13, 0xFE14⟩, 1, 0x3A⟩, ⟨⟨0xFE17, 0xFE18⟩, 1, 0x3016⟩, ⟨⟨0xFE35, 0xFE36⟩, 1, 0x28⟩,
  ⟨⟨0xFE39, 0xFE3A⟩, 1, 0x3014⟩, ⟨⟨0xFE3B, 0xFE3C⟩, 1, 0x3010⟩, ⟨⟨0xFE3D, 0xFE3E⟩, 1, 0x300A⟩,
  ⟨⟨0xFE3F, 0xFE40⟩, 1, 0x3008⟩, ⟨⟨0xFE41, 0xFE44⟩, 1, 0x300C⟩, ⟨⟨0xFE59, 0xFE5A⟩, 1, 0x28⟩,
  ⟨⟨0xFE5D, 0xFE5E⟩, 1, 0x3014⟩, ⟨⟨0xFE61, 0xFE62⟩, 1, 0x2A⟩, ⟨⟨0xFE69, 0xFE6A⟩, 1, 0x24⟩,
  ⟨⟨0xFE80, 0xFE81⟩, 1, 0x621⟩, ⟨⟨0xFE82, 0xFE83⟩, 1, 0x622⟩, ⟨⟨0xFE84, 0xFE85⟩, 1, 0x623⟩,
  ⟨⟨0xFE86, 0xFE87⟩, 1, 0x624⟩, ⟨⟨0xFE88, 0xFE89⟩, 1, 0x625⟩, ⟨⟨0xFE8C, 0xFE8D⟩, 1, 0x626⟩,
  ⟨⟨0xFE8E, 0xFE8F⟩, 1, 0x627⟩, ⟨⟨0xFE92, 0xFE93⟩, 1, 0x628⟩, ⟨⟨0xFE94, 0xFE95⟩, 1, 0x629⟩,
  ⟨⟨0xFE98, 0xFE99⟩, 1, 0x62A⟩, ⟨⟨0xFE9C, 0xFE9D⟩, 1, 0x62B⟩, ⟨⟨0xFEA0, 0xFEA1⟩, 1, 0x62C⟩,
  ⟨⟨0xFEA4, 0xFEA5⟩, 1, 0x62D⟩, ⟨⟨0xFEA8, 0xFEA9⟩, 1, 0x62E⟩, ⟨⟨0xFEAA, 0xFEAB⟩, 1, 0x62F⟩,
  ⟨⟨0xFEAC, 0xFEAD⟩, 1, 0x630⟩, ⟨⟨0xFEAE, 0xFEAF⟩, 1, 0x631⟩, ⟨⟨0xFEB0, 0xFEB1⟩, 1, 0x632⟩,
  ⟨⟨0xFEB4, 0xFEB5⟩, 1, 0x633⟩, ⟨⟨0xFEB8, 0xFEB9⟩, 1, 0x634⟩, ⟨⟨0xFEBC, 0xFEBD⟩, 1, 0x635⟩,
  ⟨⟨0xFEC0, 0xFEC1⟩, 1, 0x636⟩, ⟨⟨0xFEC4, 0xFEC5⟩, 1, 0x637⟩, ⟨⟨0xFEC8, 0xFEC9⟩, 1, 0x638⟩,
  ⟨⟨0xFECC, 0xFECD⟩, 1, 0x639⟩, ⟨⟨0xFED4, 0xFED5⟩, 1, 0x641⟩, ⟨⟨0xFED8, 0xFED9⟩, 1, 0x642⟩,
  ⟨⟨0xFEDC, 0xFEDD⟩, 1, 0x643⟩, ⟨⟨0xFEE0, 0xFEE1⟩, 1, 0x644⟩, ⟨⟨0xFEE4, 0xFEE5⟩, 1, 0x645⟩,
  ⟨⟨0xFEE8, 0xFEE9⟩, 1, 0x646⟩, ⟨⟨0xFEEC, 0xFEED⟩, 1, 0x647⟩, ⟨⟨0xFEEE, 0xFEEF⟩, 1, 0x648⟩,
  ⟨⟨0xFEF0, 0xFEF1⟩, 1, 0x649⟩, ⟨⟨0xFF01, 0xFF20⟩, 1, 0x21⟩, ⟨⟨0xFF21, 0xFF3A⟩, 1, 0x61⟩,
  ⟨⟨0xFF3B, 0xFF5E⟩, 1, 0x5B⟩, ⟨⟨0xFF5F, 0xFF60⟩, 1, 0x2985⟩, ⟨⟨0xFF62, 0xFF63⟩, 1, 0x300C⟩,
  ⟨⟨0xFF75, 0xFF76⟩, 1, 0x30AA⟩, ⟨⟨0xFF85, 0xFF8A⟩, 1, 0x30CA⟩, ⟨⟨0xFF8F, 0xFF93⟩, 1, 0x30DE⟩,
  ⟨⟨0xFF96, 0xFF9B⟩, 1, 0x30E8⟩, ⟨⟨0xFF9E, 0xFF9F⟩, 1, 0x3099⟩, ⟨⟨0xFFA1, 0xFFA2⟩, 1, 0x1100⟩,
  ⟨⟨0xFFA5, 0xFFA6⟩, 1, 0x11AC⟩, ⟨⟨0xFFA7, 0xFFA9⟩, 1, 0x1103⟩, ⟨⟨0xFFAA, 0xFFAF⟩, 1, 0x11B0⟩,
  ⟨⟨0xFFB1, 0xFFB3⟩, 1, 0x1106⟩, ⟨⟨0xFFB5, 0xFFBE⟩, 1, 0x1109⟩, ⟨⟨0xFFC2, 0xFFC7⟩, 1, 0x1161⟩,
  ⟨⟨0xFFCA, 0xFFCF⟩, 1, 0x1167⟩, ⟨⟨0xFFD2, 0xFFD7⟩, 1, 0x116D⟩, ⟨⟨0xFFDA, 0xFFDC⟩, 1, 0x1173⟩,
  ⟨⟨0xFFE0, 0xFFE1⟩, 1, 0xA2⟩, ⟨⟨0xFFE9, 0xFFEC⟩, 1, 0x2190⟩, ⟨⟨0x10400, 0x10427⟩, 1, 0x10428⟩,
  ⟨⟨0x104B0, 0x104D3⟩, 1, 0x104D8⟩, ⟨⟨0x10570, 0x1057A⟩, 1, 0x10597⟩,
  ⟨⟨0x1057C, 0x1058A⟩, 1, 0x105A3⟩, ⟨⟨0x1058C, 0x10592⟩, 1, 0x105B3⟩,
  ⟨⟨0x10594, 0x10595⟩, 1, 0x105BB⟩, ⟨⟨0x10781, 0x10782⟩, 1, 0x2D0⟩, ⟨⟨0x1078B, 0x1078C⟩, 1, 0x256⟩,
  ⟨⟨0x10799, 0x1079A⟩, 1, 0x2AA⟩, ⟨⟨0x107A3, 0x107A4⟩, 1, 0x276⟩, ⟨⟨0x107A8, 0x107A9⟩, 1, 0x27D⟩,
  ⟨⟨0x107B3, 0x107B4⟩, 1, 0x2A1⟩, ⟨⟨0x107B6, 0x107B8⟩, 1, 0x1C0⟩, ⟨⟨0x10C80, 0x10CB2⟩, 1, 0x10CC0⟩,
  ⟨⟨0x10D50, 0x10D65⟩, 1, 0x10D70⟩, ⟨⟨0x118A0, 0x118BF⟩, 1, 0x118C0⟩,
  ⟨⟨0x16E40, 0x16E5F⟩, 1, 0x16E60⟩, ⟨⟨0x16EA0, 0x16EB8⟩, 1, 0x16EBB⟩,
  ⟨⟨0x1CCD6, 0x1CCEF⟩, 1, 0x61⟩, ⟨⟨0x1CCF0, 0x1CCF9⟩, 1, 0x30⟩, ⟨⟨0x1D400, 0x1D419⟩, 1, 0x61⟩,
  ⟨⟨0x1D41A, 0x1D433⟩, 1, 0x61⟩, ⟨⟨0x1D434, 0x1D44D⟩, 1, 0x61⟩, ⟨⟨0x1D44E, 0x1D454⟩, 1, 0x61⟩,
  ⟨⟨0x1D456, 0x1D467⟩, 1, 0x69⟩, ⟨⟨0x1D468, 0x1D481⟩, 1, 0x61⟩, ⟨⟨0x1D482, 0x1D49B⟩, 1, 0x61⟩,
  ⟨⟨0x1D49C, 0x1D49E⟩, 2, 0x61⟩, ⟨⟨0x1D4A5, 0x1D4A6⟩, 1, 0x6A⟩, ⟨⟨0x1D4A9, 0x1D4AC⟩, 1, 0x6E⟩,
  ⟨⟨0x1D4AE, 0x1D4B5⟩, 1, 0x73⟩, ⟨⟨0x1D4B6, 0x1D4B9⟩, 1, 0x61⟩, ⟨⟨0x1D4BB, 0x1D4BD⟩, 2, 0x66⟩,
  ⟨⟨0x1D4BE, 0x1D4C3⟩, 1, 0x69⟩, ⟨⟨0x1D4C5, 0x1D4CF⟩, 1, 0x70⟩, ⟨⟨0x1D4D0, 0x1D4E9⟩, 1, 0x61⟩,
  ⟨⟨0x1D4EA, 0x1D503⟩, 1, 0x61⟩, ⟨⟨0x1D504, 0x1D505⟩, 1, 0x61⟩, ⟨⟨0x1D507, 0x1D50A⟩, 1, 0x64⟩,
  ⟨⟨0x1D50D, 0x1D514⟩, 1, 0x6A⟩, ⟨⟨0x1D516, 0x1D51C⟩, 1, 0x73⟩, ⟨⟨0x1D51E, 0x1D537⟩, 1, 0x61⟩,
  ⟨⟨0x1D538, 0x1D539⟩, 1, 0x61⟩, ⟨⟨0x1D53B, 0x1D53E⟩, 1, 0x64⟩, ⟨⟨0x1D540, 0x1D544⟩, 1, 0x69⟩,
  ⟨⟨0x1D54A, 0x1D550⟩, 1, 0x73⟩, ⟨⟨0x1D552, 0x1D56B⟩, 1, 0x61⟩, ⟨⟨0x1D56C, 0x1D585⟩, 1, 0x61⟩,
  ⟨⟨0x1D586, 0x1D59F⟩, 1, 0x61⟩, ⟨⟨0x1D5A0, 0x1D5B9⟩, 1, 0x61⟩, ⟨⟨0x1D5BA, 0x1D5D3⟩, 1, 0x61⟩,
  ⟨⟨0x1D5D4, 0x1D5ED⟩, 1, 0x61⟩, ⟨⟨0x1D5EE, 0x1D607⟩, 1, 0x61⟩, ⟨⟨0x1D608, 0x1D621⟩, 1, 0x61⟩,
  ⟨⟨0x1D622, 0x1D63B⟩, 1, 0x61⟩, ⟨⟨0x1D63C, 0x1D655⟩, 1, 0x61⟩, ⟨⟨0x1D656, 0x1D66F⟩, 1, 0x61⟩,
  ⟨⟨0x1D670, 0x1D689⟩, 1, 0x61⟩, ⟨⟨0x1D68A, 0x1D6A3⟩, 1, 0x61⟩, ⟨⟨0x1D6A8, 0x1D6B8⟩, 1, 0x3B1⟩,
  ⟨⟨0x1D6BA, 0x1D6C0⟩, 1, 0x3C3⟩, ⟨⟨0x1D6C2, 0x1D6D2⟩, 1, 0x3B1⟩, ⟨⟨0x1D6D4, 0x1D6DA⟩, 1, 0x3C3⟩,
  ⟨⟨0x1D6E2, 0x1D6F2⟩, 1, 0x3B1⟩, ⟨⟨0x1D6F4, 0x1D6FA⟩, 1, 0x3C3⟩, ⟨⟨0x1D6FC, 0x1D70C⟩, 1, 0x3B1⟩,
  ⟨⟨0x1D70E, 0x1D714⟩, 1, 0x3C3⟩, ⟨⟨0x1D71C, 0x1D72C⟩, 1, 0x3B1⟩, ⟨⟨0x1D72E, 0x1D734⟩, 1, 0x3C3⟩,
  ⟨⟨0x1D736, 0x1D746⟩, 1, 0x3B1⟩, ⟨⟨0x1D748, 0x1D74E⟩, 1, 0x3C3⟩, ⟨⟨0x1D756, 0x1D766⟩, 1, 0x3B1⟩,
  ⟨⟨0x1D768, 0x1D76E⟩, 1, 0x3C3⟩, ⟨⟨0x1D770, 0x1D780⟩, 1, 0x3B1⟩, ⟨⟨0x1D782, 0x1D788⟩, 1, 0x3C3⟩,
  ⟨⟨0x1D790, 0x1D7A0⟩, 1, 0x3B1⟩, ⟨⟨0x1D7A2, 0x1D7A8⟩, 1, 0x3C3⟩, ⟨⟨0x1D7AA, 0x1D7BA⟩, 1, 0x3B1⟩,
  ⟨⟨0x1D7BC, 0x1D7C2⟩, 1, 0x3C3⟩, ⟨⟨0x1D7CE, 0x1D7D7⟩, 1, 0x30⟩, ⟨⟨0x1D7D8, 0x1D7E1⟩, 1, 0x30⟩,
  ⟨⟨0x1D7E2, 0x1D7EB⟩, 1, 0x30⟩, ⟨⟨0x1D7EC, 0x1D7F5⟩, 1, 0x30⟩, ⟨⟨0x1D7F6, 0x1D7FF⟩, 1, 0x30⟩,
  ⟨⟨0x1E030, 0x1E038⟩, 1, 0x430⟩, ⟨⟨0x1E039, 0x1E03B⟩, 1, 0x43A⟩, ⟨⟨0x1E03C, 0x1E046⟩, 1, 0x43E⟩,
  ⟨⟨0x1E048, 0x1E049⟩, 1, 0x44D⟩, ⟨⟨0x1E051, 0x1E059⟩, 1, 0x430⟩, ⟨⟨0x1E05A, 0x1E05B⟩, 1, 0x43A⟩,
  ⟨⟨0x1E05C, 0x1E05D⟩, 1, 0x43E⟩, ⟨⟨0x1E05F, 0x1E064⟩, 1, 0x443⟩, ⟨⟨0x1E065, 0x1E066⟩, 1, 0x44A⟩,
  ⟨⟨0x1E900, 0x1E921⟩, 1, 0x1E922⟩, ⟨⟨0x1EE00, 0x1EE01⟩, 1, 0x627⟩, ⟨⟨0x1EE0A, 0x1EE0D⟩, 1, 0x643⟩,
  ⟨⟨0x1EE15, 0x1EE16⟩, 1, 0x62A⟩, ⟨⟨0x1EE2A, 0x1EE2D⟩, 1, 0x643⟩, ⟨⟨0x1EE35, 0x1EE36⟩, 1, 0x62A⟩,
  ⟨⟨0x1EE4B, 0x1EE4D⟩, 2, 0x644⟩, ⟨⟨0x1EE6A, 0x1EE6C⟩, 2, 0x643⟩, ⟨⟨0x1EE75, 0x1EE76⟩, 1, 0x62A⟩,
  ⟨⟨0x1EE80, 0x1EE81⟩, 1, 0x627⟩, ⟨⟨0x1EE84, 0x1EE85⟩, 1, 0x647⟩, ⟨⟨0x1EE8B, 0x1EE8D⟩, 1, 0x644⟩,
  ⟨⟨0x1EE95, 0x1EE96⟩, 1, 0x62A⟩, ⟨⟨0x1EEAB, 0x1EEAD⟩, 1, 0x644⟩, ⟨⟨0x1EEB5, 0x1EEB6⟩, 1, 0x62A⟩,
  ⟨⟨0x1F130, 0x1F149⟩, 1, 0x61⟩, ⟨⟨0x1FBF0, 0x1FBF9⟩, 1, 0x30⟩, ⟨⟨0x2F829, 0x2F82A⟩, 1, 0x5305⟩,
  ⟨⟨0x2F881, 0x2F882⟩, 1, 0x5DE1⟩, ⟨⟨0x2F8F5, 0x2F8F6⟩, 1, 0x6BBA⟩,
  ⟨⟨0x2F945, 0x2F946⟩, 1, 0x771E⟩, ⟨⟨0x2F9E8, 0x2F9E9⟩, 1, 0x92D7⟩]

end CodePoint

end ResultPages
