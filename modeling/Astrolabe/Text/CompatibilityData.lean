import Astrolabe.Text.Ranges

/-!
Tables for the compatibility form of names: what a character decomposes into, the class by which
combining marks are ordered, and the pairs that compose. Hangul syllables follow a formula and are
not listed.
-/

namespace Astrolabe.Text

set_option maxRecDepth 20000 in
/-- Name characters that stand for one other character, in runs. -/
def substituteRuns : Array MappedRun :=
  #[⟨0xAA, 0xAA, 1, 0x61⟩, ⟨0xB5, 0xB5, 1, 0x3BC⟩, ⟨0xBA, 0xBA, 1, 0x6F⟩, ⟨0x17F, 0x17F, 1, 0x73⟩,
    ⟨0x2B0, 0x2B0, 1, 0x68⟩, ⟨0x2B1, 0x2B1, 1, 0x266⟩, ⟨0x2B2, 0x2B2, 1, 0x6A⟩,
    ⟨0x2B3, 0x2B3, 1, 0x72⟩, ⟨0x2B4, 0x2B4, 1, 0x279⟩, ⟨0x2B5, 0x2B5, 1, 0x27B⟩,
    ⟨0x2B6, 0x2B6, 1, 0x281⟩, ⟨0x2B7, 0x2B7, 1, 0x77⟩, ⟨0x2B8, 0x2B8, 1, 0x79⟩,
    ⟨0x2E0, 0x2E0, 1, 0x263⟩, ⟨0x2E1, 0x2E1, 1, 0x6C⟩, ⟨0x2E2, 0x2E2, 1, 0x73⟩,
    ⟨0x2E3, 0x2E3, 1, 0x78⟩, ⟨0x2E4, 0x2E4, 1, 0x295⟩, ⟨0x340, 0x341, 1, 0x300⟩,
    ⟨0x343, 0x343, 1, 0x313⟩, ⟨0x374, 0x374, 1, 0x2B9⟩, ⟨0x387, 0x387, 1, 0xB7⟩,
    ⟨0x3D0, 0x3D0, 1, 0x3B2⟩, ⟨0x3D1, 0x3D1, 1, 0x3B8⟩, ⟨0x3D2, 0x3D2, 1, 0x3A5⟩,
    ⟨0x3D5, 0x3D5, 1, 0x3C6⟩, ⟨0x3D6, 0x3D6, 1, 0x3C0⟩, ⟨0x3F0, 0x3F0, 1, 0x3BA⟩,
    ⟨0x3F1, 0x3F2, 1, 0x3C1⟩, ⟨0x3F4, 0x3F4, 1, 0x398⟩, ⟨0x3F5, 0x3F5, 1, 0x3B5⟩,
    ⟨0x3F9, 0x3F9, 1, 0x3A3⟩, ⟨0x10FC, 0x10FC, 1, 0x10DC⟩, ⟨0x1D2C, 0x1D2C, 1, 0x41⟩,
    ⟨0x1D2D, 0x1D2D, 1, 0xC6⟩, ⟨0x1D2E, 0x1D2E, 1, 0x42⟩, ⟨0x1D30, 0x1D31, 1, 0x44⟩,
    ⟨0x1D32, 0x1D32, 1, 0x18E⟩, ⟨0x1D33, 0x1D3A, 1, 0x47⟩, ⟨0x1D3C, 0x1D3C, 1, 0x4F⟩,
    ⟨0x1D3D, 0x1D3D, 1, 0x222⟩, ⟨0x1D3E, 0x1D3E, 1, 0x50⟩, ⟨0x1D3F, 0x1D3F, 1, 0x52⟩,
    ⟨0x1D40, 0x1D41, 1, 0x54⟩, ⟨0x1D42, 0x1D42, 1, 0x57⟩, ⟨0x1D43, 0x1D43, 1, 0x61⟩,
    ⟨0x1D44, 0x1D45, 1, 0x250⟩, ⟨0x1D46, 0x1D46, 1, 0x1D02⟩, ⟨0x1D47, 0x1D47, 1, 0x62⟩,
    ⟨0x1D48, 0x1D49, 1, 0x64⟩, ⟨0x1D4A, 0x1D4A, 1, 0x259⟩, ⟨0x1D4B, 0x1D4C, 1, 0x25B⟩,
    ⟨0x1D4D, 0x1D4D, 1, 0x67⟩, ⟨0x1D4F, 0x1D4F, 1, 0x6B⟩, ⟨0x1D50, 0x1D50, 1, 0x6D⟩,
    ⟨0x1D51, 0x1D51, 1, 0x14B⟩, ⟨0x1D52, 0x1D52, 1, 0x6F⟩, ⟨0x1D53, 0x1D53, 1, 0x254⟩,
    ⟨0x1D54, 0x1D55, 1, 0x1D16⟩, ⟨0x1D56, 0x1D56, 1, 0x70⟩, ⟨0x1D57, 0x1D58, 1, 0x74⟩,
    ⟨0x1D59, 0x1D59, 1, 0x1D1D⟩, ⟨0x1D5A, 0x1D5A, 1, 0x26F⟩, ⟨0x1D5B, 0x1D5B, 1, 0x76⟩,
    ⟨0x1D5C, 0x1D5C, 1, 0x1D25⟩, ⟨0x1D5D, 0x1D5F, 1, 0x3B2⟩, ⟨0x1D60, 0x1D61, 1, 0x3C6⟩,
    ⟨0x1D62, 0x1D62, 1, 0x69⟩, ⟨0x1D63, 0x1D63, 1, 0x72⟩, ⟨0x1D64, 0x1D65, 1, 0x75⟩,
    ⟨0x1D66, 0x1D67, 1, 0x3B2⟩, ⟨0x1D68, 0x1D68, 1, 0x3C1⟩, ⟨0x1D69, 0x1D6A, 1, 0x3C6⟩,
    ⟨0x1D78, 0x1D78, 1, 0x43D⟩, ⟨0x1D9B, 0x1D9B, 1, 0x252⟩, ⟨0x1D9C, 0x1D9C, 1, 0x63⟩,
    ⟨0x1D9D, 0x1D9D, 1, 0x255⟩, ⟨0x1D9E, 0x1D9E, 1, 0xF0⟩, ⟨0x1D9F, 0x1D9F, 1, 0x25C⟩,
    ⟨0x1DA0, 0x1DA0, 1, 0x66⟩, ⟨0x1DA1, 0x1DA1, 1, 0x25F⟩, ⟨0x1DA2, 0x1DA2, 1, 0x261⟩,
    ⟨0x1DA3, 0x1DA3, 1, 0x265⟩, ⟨0x1DA4, 0x1DA6, 1, 0x268⟩, ⟨0x1DA7, 0x1DA7, 1, 0x1D7B⟩,
    ⟨0x1DA8, 0x1DA8, 1, 0x29D⟩, ⟨0x1DA9, 0x1DA9, 1, 0x26D⟩, ⟨0x1DAA, 0x1DAA, 1, 0x1D85⟩,
    ⟨0x1DAB, 0x1DAB, 1, 0x29F⟩, ⟨0x1DAC, 0x1DAC, 1, 0x271⟩, ⟨0x1DAD, 0x1DAD, 1, 0x270⟩,
    ⟨0x1DAE, 0x1DB1, 1, 0x272⟩, ⟨0x1DB2, 0x1DB2, 1, 0x278⟩, ⟨0x1DB3, 0x1DB4, 1, 0x282⟩,
    ⟨0x1DB5, 0x1DB5, 1, 0x1AB⟩, ⟨0x1DB6, 0x1DB7, 1, 0x289⟩, ⟨0x1DB8, 0x1DB8, 1, 0x1D1C⟩,
    ⟨0x1DB9, 0x1DBA, 1, 0x28B⟩, ⟨0x1DBB, 0x1DBB, 1, 0x7A⟩, ⟨0x1DBC, 0x1DBE, 1, 0x290⟩,
    ⟨0x1DBF, 0x1DBF, 1, 0x3B8⟩, ⟨0x1FBE, 0x1FBE, 1, 0x3B9⟩, ⟨0x2071, 0x2071, 1, 0x69⟩,
    ⟨0x207F, 0x207F, 1, 0x6E⟩, ⟨0x2090, 0x2090, 1, 0x61⟩, ⟨0x2091, 0x2091, 1, 0x65⟩,
    ⟨0x2092, 0x2092, 1, 0x6F⟩, ⟨0x2093, 0x2093, 1, 0x78⟩, ⟨0x2094, 0x2094, 1, 0x259⟩,
    ⟨0x2095, 0x2095, 1, 0x68⟩, ⟨0x2096, 0x2099, 1, 0x6B⟩, ⟨0x209A, 0x209A, 1, 0x70⟩,
    ⟨0x209B, 0x209C, 1, 0x73⟩, ⟨0x2102, 0x2102, 1, 0x43⟩, ⟨0x2107, 0x2107, 1, 0x190⟩,
    ⟨0x210A, 0x210A, 1, 0x67⟩, ⟨0x210B, 0x210B, 1, 0x48⟩, ⟨0x210C, 0x210C, 1, 0x48⟩,
    ⟨0x210D, 0x210D, 1, 0x48⟩, ⟨0x210E, 0x210E, 1, 0x68⟩, ⟨0x210F, 0x210F, 1, 0x127⟩,
    ⟨0x2110, 0x2110, 1, 0x49⟩, ⟨0x2111, 0x2111, 1, 0x49⟩, ⟨0x2112, 0x2112, 1, 0x4C⟩,
    ⟨0x2113, 0x2113, 1, 0x6C⟩, ⟨0x2115, 0x2115, 1, 0x4E⟩, ⟨0x2119, 0x211B, 1, 0x50⟩,
    ⟨0x211C, 0x211C, 1, 0x52⟩, ⟨0x211D, 0x211D, 1, 0x52⟩, ⟨0x2124, 0x2124, 1, 0x5A⟩,
    ⟨0x2126, 0x2126, 1, 0x3A9⟩, ⟨0x2128, 0x2128, 1, 0x5A⟩, ⟨0x212A, 0x212A, 1, 0x4B⟩,
    ⟨0x212C, 0x212D, 1, 0x42⟩, ⟨0x212F, 0x212F, 1, 0x65⟩, ⟨0x2130, 0x2131, 1, 0x45⟩,
    ⟨0x2133, 0x2133, 1, 0x4D⟩, ⟨0x2134, 0x2134, 1, 0x6F⟩, ⟨0x2135, 0x2138, 1, 0x5D0⟩,
    ⟨0x2139, 0x2139, 1, 0x69⟩, ⟨0x213C, 0x213C, 1, 0x3C0⟩, ⟨0x213D, 0x213D, 1, 0x3B3⟩,
    ⟨0x213E, 0x213E, 1, 0x393⟩, ⟨0x213F, 0x213F, 1, 0x3A0⟩, ⟨0x2145, 0x2145, 1, 0x44⟩,
    ⟨0x2146, 0x2147, 1, 0x64⟩, ⟨0x2148, 0x2149, 1, 0x69⟩, ⟨0x2160, 0x2160, 1, 0x49⟩,
    ⟨0x2164, 0x2164, 1, 0x56⟩, ⟨0x2169, 0x2169, 1, 0x58⟩, ⟨0x216C, 0x216C, 1, 0x4C⟩,
    ⟨0x216D, 0x216E, 1, 0x43⟩, ⟨0x216F, 0x216F, 1, 0x4D⟩, ⟨0x2170, 0x2170, 1, 0x69⟩,
    ⟨0x2174, 0x2174, 1, 0x76⟩, ⟨0x2179, 0x2179, 1, 0x78⟩, ⟨0x217C, 0x217C, 1, 0x6C⟩,
    ⟨0x217D, 0x217E, 1, 0x63⟩, ⟨0x217F, 0x217F, 1, 0x6D⟩, ⟨0x2C7C, 0x2C7C, 1, 0x6A⟩,
    ⟨0x2C7D, 0x2C7D, 1, 0x56⟩, ⟨0x2D6F, 0x2D6F, 1, 0x2D61⟩, ⟨0x3038, 0x3038, 1, 0x5341⟩,
    ⟨0x3039, 0x303A, 1, 0x5344⟩, ⟨0x3131, 0x3132, 1, 0x1100⟩, ⟨0x3133, 0x3133, 1, 0x11AA⟩,
    ⟨0x3134, 0x3134, 1, 0x1102⟩, ⟨0x3135, 0x3136, 1, 0x11AC⟩, ⟨0x3137, 0x3139, 1, 0x1103⟩,
    ⟨0x313A, 0x313F, 1, 0x11B0⟩, ⟨0x3140, 0x3140, 1, 0x111A⟩, ⟨0x3141, 0x3143, 1, 0x1106⟩,
    ⟨0x3144, 0x3144, 1, 0x1121⟩, ⟨0x3145, 0x314E, 1, 0x1109⟩, ⟨0x314F, 0x3163, 1, 0x1161⟩,
    ⟨0x3164, 0x3164, 1, 0x1160⟩, ⟨0x3165, 0x3166, 1, 0x1114⟩, ⟨0x3167, 0x3168, 1, 0x11C7⟩,
    ⟨0x3169, 0x3169, 1, 0x11CC⟩, ⟨0x316A, 0x316A, 1, 0x11CE⟩, ⟨0x316B, 0x316B, 1, 0x11D3⟩,
    ⟨0x316C, 0x316C, 1, 0x11D7⟩, ⟨0x316D, 0x316D, 1, 0x11D9⟩, ⟨0x316E, 0x316E, 1, 0x111C⟩,
    ⟨0x316F, 0x316F, 1, 0x11DD⟩, ⟨0x3170, 0x3170, 1, 0x11DF⟩, ⟨0x3171, 0x3172, 1, 0x111D⟩,
    ⟨0x3173, 0x3173, 1, 0x1120⟩, ⟨0x3174, 0x3175, 1, 0x1122⟩, ⟨0x3176, 0x3176, 1, 0x1127⟩,
    ⟨0x3177, 0x3177, 1, 0x1129⟩, ⟨0x3178, 0x317C, 1, 0x112B⟩, ⟨0x317D, 0x317D, 1, 0x1132⟩,
    ⟨0x317E, 0x317E, 1, 0x1136⟩, ⟨0x317F, 0x317F, 1, 0x1140⟩, ⟨0x3180, 0x3180, 1, 0x1147⟩,
    ⟨0x3181, 0x3181, 1, 0x114C⟩, ⟨0x3182, 0x3183, 1, 0x11F1⟩, ⟨0x3184, 0x3186, 1, 0x1157⟩,
    ⟨0x3187, 0x3188, 1, 0x1184⟩, ⟨0x3189, 0x3189, 1, 0x1188⟩, ⟨0x318A, 0x318B, 1, 0x1191⟩,
    ⟨0x318C, 0x318C, 1, 0x1194⟩, ⟨0x318D, 0x318D, 1, 0x119E⟩, ⟨0x318E, 0x318E, 1, 0x11A1⟩,
    ⟨0xA69C, 0xA69C, 1, 0x44A⟩, ⟨0xA69D, 0xA69D, 1, 0x44C⟩, ⟨0xA770, 0xA770, 1, 0xA76F⟩,
    ⟨0xA7F2, 0xA7F2, 1, 0x43⟩, ⟨0xA7F3, 0xA7F3, 1, 0x46⟩, ⟨0xA7F4, 0xA7F4, 1, 0x51⟩,
    ⟨0xA7F8, 0xA7F8, 1, 0x126⟩, ⟨0xA7F9, 0xA7F9, 1, 0x153⟩, ⟨0xAB5C, 0xAB5C, 1, 0xA727⟩,
    ⟨0xAB5D, 0xAB5D, 1, 0xAB37⟩, ⟨0xAB5E, 0xAB5E, 1, 0x26B⟩, ⟨0xAB5F, 0xAB5F, 1, 0xAB52⟩,
    ⟨0xAB69, 0xAB69, 1, 0x28D⟩, ⟨0xF900, 0xF900, 1, 0x8C48⟩, ⟨0xF901, 0xF901, 1, 0x66F4⟩,
    ⟨0xF902, 0xF902, 1, 0x8ECA⟩, ⟨0xF903, 0xF903, 1, 0x8CC8⟩, ⟨0xF904, 0xF904, 1, 0x6ED1⟩,
    ⟨0xF905, 0xF905, 1, 0x4E32⟩, ⟨0xF906, 0xF906, 1, 0x53E5⟩, ⟨0xF907, 0xF907, 1, 0x9F9C⟩,
    ⟨0xF908, 0xF908, 1, 0x9F9C⟩, ⟨0xF909, 0xF909, 1, 0x5951⟩, ⟨0xF90A, 0xF90A, 1, 0x91D1⟩,
    ⟨0xF90B, 0xF90B, 1, 0x5587⟩, ⟨0xF90C, 0xF90C, 1, 0x5948⟩, ⟨0xF90D, 0xF90D, 1, 0x61F6⟩,
    ⟨0xF90E, 0xF90E, 1, 0x7669⟩, ⟨0xF90F, 0xF90F, 1, 0x7F85⟩, ⟨0xF910, 0xF910, 1, 0x863F⟩,
    ⟨0xF911, 0xF911, 1, 0x87BA⟩, ⟨0xF912, 0xF912, 1, 0x88F8⟩, ⟨0xF913, 0xF913, 1, 0x908F⟩,
    ⟨0xF914, 0xF914, 1, 0x6A02⟩, ⟨0xF915, 0xF915, 1, 0x6D1B⟩, ⟨0xF916, 0xF916, 1, 0x70D9⟩,
    ⟨0xF917, 0xF917, 1, 0x73DE⟩, ⟨0xF918, 0xF918, 1, 0x843D⟩, ⟨0xF919, 0xF919, 1, 0x916A⟩,
    ⟨0xF91A, 0xF91A, 1, 0x99F1⟩, ⟨0xF91B, 0xF91B, 1, 0x4E82⟩, ⟨0xF91C, 0xF91C, 1, 0x5375⟩,
    ⟨0xF91D, 0xF91D, 1, 0x6B04⟩, ⟨0xF91E, 0xF91E, 1, 0x721B⟩, ⟨0xF91F, 0xF91F, 1, 0x862D⟩,
    ⟨0xF920, 0xF920, 1, 0x9E1E⟩, ⟨0xF921, 0xF921, 1, 0x5D50⟩, ⟨0xF922, 0xF922, 1, 0x6FEB⟩,
    ⟨0xF923, 0xF923, 1, 0x85CD⟩, ⟨0xF924, 0xF924, 1, 0x8964⟩, ⟨0xF925, 0xF925, 1, 0x62C9⟩,
    ⟨0xF926, 0xF926, 1, 0x81D8⟩, ⟨0xF927, 0xF927, 1, 0x881F⟩, ⟨0xF928, 0xF928, 1, 0x5ECA⟩,
    ⟨0xF929, 0xF929, 1, 0x6717⟩, ⟨0xF92A, 0xF92A, 1, 0x6D6A⟩, ⟨0xF92B, 0xF92B, 1, 0x72FC⟩,
    ⟨0xF92C, 0xF92C, 1, 0x90CE⟩, ⟨0xF92D, 0xF92D, 1, 0x4F86⟩, ⟨0xF92E, 0xF92E, 1, 0x51B7⟩,
    ⟨0xF92F, 0xF92F, 1, 0x52DE⟩, ⟨0xF930, 0xF930, 1, 0x64C4⟩, ⟨0xF931, 0xF931, 1, 0x6AD3⟩,
    ⟨0xF932, 0xF932, 1, 0x7210⟩, ⟨0xF933, 0xF933, 1, 0x76E7⟩, ⟨0xF934, 0xF934, 1, 0x8001⟩,
    ⟨0xF935, 0xF935, 1, 0x8606⟩, ⟨0xF936, 0xF936, 1, 0x865C⟩, ⟨0xF937, 0xF937, 1, 0x8DEF⟩,
    ⟨0xF938, 0xF938, 1, 0x9732⟩, ⟨0xF939, 0xF939, 1, 0x9B6F⟩, ⟨0xF93A, 0xF93A, 1, 0x9DFA⟩,
    ⟨0xF93B, 0xF93B, 1, 0x788C⟩, ⟨0xF93C, 0xF93C, 1, 0x797F⟩, ⟨0xF93D, 0xF93D, 1, 0x7DA0⟩,
    ⟨0xF93E, 0xF93E, 1, 0x83C9⟩, ⟨0xF93F, 0xF93F, 1, 0x9304⟩, ⟨0xF940, 0xF940, 1, 0x9E7F⟩,
    ⟨0xF941, 0xF941, 1, 0x8AD6⟩, ⟨0xF942, 0xF942, 1, 0x58DF⟩, ⟨0xF943, 0xF943, 1, 0x5F04⟩,
    ⟨0xF944, 0xF944, 1, 0x7C60⟩, ⟨0xF945, 0xF945, 1, 0x807E⟩, ⟨0xF946, 0xF946, 1, 0x7262⟩,
    ⟨0xF947, 0xF947, 1, 0x78CA⟩, ⟨0xF948, 0xF948, 1, 0x8CC2⟩, ⟨0xF949, 0xF949, 1, 0x96F7⟩,
    ⟨0xF94A, 0xF94A, 1, 0x58D8⟩, ⟨0xF94B, 0xF94B, 1, 0x5C62⟩, ⟨0xF94C, 0xF94C, 1, 0x6A13⟩,
    ⟨0xF94D, 0xF94D, 1, 0x6DDA⟩, ⟨0xF94E, 0xF94E, 1, 0x6F0F⟩, ⟨0xF94F, 0xF94F, 1, 0x7D2F⟩,
    ⟨0xF950, 0xF950, 1, 0x7E37⟩, ⟨0xF951, 0xF951, 1, 0x964B⟩, ⟨0xF952, 0xF952, 1, 0x52D2⟩,
    ⟨0xF953, 0xF953, 1, 0x808B⟩, ⟨0xF954, 0xF954, 1, 0x51DC⟩, ⟨0xF955, 0xF955, 1, 0x51CC⟩,
    ⟨0xF956, 0xF956, 1, 0x7A1C⟩, ⟨0xF957, 0xF957, 1, 0x7DBE⟩, ⟨0xF958, 0xF958, 1, 0x83F1⟩,
    ⟨0xF959, 0xF959, 1, 0x9675⟩, ⟨0xF95A, 0xF95A, 1, 0x8B80⟩, ⟨0xF95B, 0xF95B, 1, 0x62CF⟩,
    ⟨0xF95C, 0xF95C, 1, 0x6A02⟩, ⟨0xF95D, 0xF95D, 1, 0x8AFE⟩, ⟨0xF95E, 0xF95E, 1, 0x4E39⟩,
    ⟨0xF95F, 0xF95F, 1, 0x5BE7⟩, ⟨0xF960, 0xF960, 1, 0x6012⟩, ⟨0xF961, 0xF961, 1, 0x7387⟩,
    ⟨0xF962, 0xF962, 1, 0x7570⟩, ⟨0xF963, 0xF963, 1, 0x5317⟩, ⟨0xF964, 0xF964, 1, 0x78FB⟩,
    ⟨0xF965, 0xF965, 1, 0x4FBF⟩, ⟨0xF966, 0xF966, 1, 0x5FA9⟩, ⟨0xF967, 0xF967, 1, 0x4E0D⟩,
    ⟨0xF968, 0xF968, 1, 0x6CCC⟩, ⟨0xF969, 0xF969, 1, 0x6578⟩, ⟨0xF96A, 0xF96A, 1, 0x7D22⟩,
    ⟨0xF96B, 0xF96B, 1, 0x53C3⟩, ⟨0xF96C, 0xF96C, 1, 0x585E⟩, ⟨0xF96D, 0xF96D, 1, 0x7701⟩,
    ⟨0xF96E, 0xF96E, 1, 0x8449⟩, ⟨0xF96F, 0xF96F, 1, 0x8AAA⟩, ⟨0xF970, 0xF970, 1, 0x6BBA⟩,
    ⟨0xF971, 0xF971, 1, 0x8FB0⟩, ⟨0xF972, 0xF972, 1, 0x6C88⟩, ⟨0xF973, 0xF973, 1, 0x62FE⟩,
    ⟨0xF974, 0xF974, 1, 0x82E5⟩, ⟨0xF975, 0xF975, 1, 0x63A0⟩, ⟨0xF976, 0xF976, 1, 0x7565⟩,
    ⟨0xF977, 0xF977, 1, 0x4EAE⟩, ⟨0xF978, 0xF978, 1, 0x5169⟩, ⟨0xF979, 0xF979, 1, 0x51C9⟩,
    ⟨0xF97A, 0xF97A, 1, 0x6881⟩, ⟨0xF97B, 0xF97B, 1, 0x7CE7⟩, ⟨0xF97C, 0xF97C, 1, 0x826F⟩,
    ⟨0xF97D, 0xF97D, 1, 0x8AD2⟩, ⟨0xF97E, 0xF97E, 1, 0x91CF⟩, ⟨0xF97F, 0xF97F, 1, 0x52F5⟩,
    ⟨0xF980, 0xF980, 1, 0x5442⟩, ⟨0xF981, 0xF981, 1, 0x5973⟩, ⟨0xF982, 0xF982, 1, 0x5EEC⟩,
    ⟨0xF983, 0xF983, 1, 0x65C5⟩, ⟨0xF984, 0xF984, 1, 0x6FFE⟩, ⟨0xF985, 0xF985, 1, 0x792A⟩,
    ⟨0xF986, 0xF986, 1, 0x95AD⟩, ⟨0xF987, 0xF987, 1, 0x9A6A⟩, ⟨0xF988, 0xF988, 1, 0x9E97⟩,
    ⟨0xF989, 0xF989, 1, 0x9ECE⟩, ⟨0xF98A, 0xF98A, 1, 0x529B⟩, ⟨0xF98B, 0xF98B, 1, 0x66C6⟩,
    ⟨0xF98C, 0xF98C, 1, 0x6B77⟩, ⟨0xF98D, 0xF98D, 1, 0x8F62⟩, ⟨0xF98E, 0xF98E, 1, 0x5E74⟩,
    ⟨0xF98F, 0xF98F, 1, 0x6190⟩, ⟨0xF990, 0xF990, 1, 0x6200⟩, ⟨0xF991, 0xF991, 1, 0x649A⟩,
    ⟨0xF992, 0xF992, 1, 0x6F23⟩, ⟨0xF993, 0xF993, 1, 0x7149⟩, ⟨0xF994, 0xF994, 1, 0x7489⟩,
    ⟨0xF995, 0xF995, 1, 0x79CA⟩, ⟨0xF996, 0xF996, 1, 0x7DF4⟩, ⟨0xF997, 0xF997, 1, 0x806F⟩,
    ⟨0xF998, 0xF998, 1, 0x8F26⟩, ⟨0xF999, 0xF999, 1, 0x84EE⟩, ⟨0xF99A, 0xF99A, 1, 0x9023⟩,
    ⟨0xF99B, 0xF99B, 1, 0x934A⟩, ⟨0xF99C, 0xF99C, 1, 0x5217⟩, ⟨0xF99D, 0xF99D, 1, 0x52A3⟩,
    ⟨0xF99E, 0xF99E, 1, 0x54BD⟩, ⟨0xF99F, 0xF99F, 1, 0x70C8⟩, ⟨0xF9A0, 0xF9A0, 1, 0x88C2⟩,
    ⟨0xF9A1, 0xF9A1, 1, 0x8AAA⟩, ⟨0xF9A2, 0xF9A2, 1, 0x5EC9⟩, ⟨0xF9A3, 0xF9A3, 1, 0x5FF5⟩,
    ⟨0xF9A4, 0xF9A4, 1, 0x637B⟩, ⟨0xF9A5, 0xF9A5, 1, 0x6BAE⟩, ⟨0xF9A6, 0xF9A6, 1, 0x7C3E⟩,
    ⟨0xF9A7, 0xF9A7, 1, 0x7375⟩, ⟨0xF9A8, 0xF9A8, 1, 0x4EE4⟩, ⟨0xF9A9, 0xF9A9, 1, 0x56F9⟩,
    ⟨0xF9AA, 0xF9AA, 1, 0x5BE7⟩, ⟨0xF9AB, 0xF9AB, 1, 0x5DBA⟩, ⟨0xF9AC, 0xF9AC, 1, 0x601C⟩,
    ⟨0xF9AD, 0xF9AD, 1, 0x73B2⟩, ⟨0xF9AE, 0xF9AE, 1, 0x7469⟩, ⟨0xF9AF, 0xF9AF, 1, 0x7F9A⟩,
    ⟨0xF9B0, 0xF9B0, 1, 0x8046⟩, ⟨0xF9B1, 0xF9B1, 1, 0x9234⟩, ⟨0xF9B2, 0xF9B2, 1, 0x96F6⟩,
    ⟨0xF9B3, 0xF9B3, 1, 0x9748⟩, ⟨0xF9B4, 0xF9B4, 1, 0x9818⟩, ⟨0xF9B5, 0xF9B5, 1, 0x4F8B⟩,
    ⟨0xF9B6, 0xF9B6, 1, 0x79AE⟩, ⟨0xF9B7, 0xF9B7, 1, 0x91B4⟩, ⟨0xF9B8, 0xF9B8, 1, 0x96B8⟩,
    ⟨0xF9B9, 0xF9B9, 1, 0x60E1⟩, ⟨0xF9BA, 0xF9BA, 1, 0x4E86⟩, ⟨0xF9BB, 0xF9BB, 1, 0x50DA⟩,
    ⟨0xF9BC, 0xF9BC, 1, 0x5BEE⟩, ⟨0xF9BD, 0xF9BD, 1, 0x5C3F⟩, ⟨0xF9BE, 0xF9BE, 1, 0x6599⟩,
    ⟨0xF9BF, 0xF9BF, 1, 0x6A02⟩, ⟨0xF9C0, 0xF9C0, 1, 0x71CE⟩, ⟨0xF9C1, 0xF9C1, 1, 0x7642⟩,
    ⟨0xF9C2, 0xF9C2, 1, 0x84FC⟩, ⟨0xF9C3, 0xF9C3, 1, 0x907C⟩, ⟨0xF9C4, 0xF9C4, 1, 0x9F8D⟩,
    ⟨0xF9C5, 0xF9C5, 1, 0x6688⟩, ⟨0xF9C6, 0xF9C6, 1, 0x962E⟩, ⟨0xF9C7, 0xF9C7, 1, 0x5289⟩,
    ⟨0xF9C8, 0xF9C8, 1, 0x677B⟩, ⟨0xF9C9, 0xF9C9, 1, 0x67F3⟩, ⟨0xF9CA, 0xF9CA, 1, 0x6D41⟩,
    ⟨0xF9CB, 0xF9CB, 1, 0x6E9C⟩, ⟨0xF9CC, 0xF9CC, 1, 0x7409⟩, ⟨0xF9CD, 0xF9CD, 1, 0x7559⟩,
    ⟨0xF9CE, 0xF9CE, 1, 0x786B⟩, ⟨0xF9CF, 0xF9CF, 1, 0x7D10⟩, ⟨0xF9D0, 0xF9D0, 1, 0x985E⟩,
    ⟨0xF9D1, 0xF9D1, 1, 0x516D⟩, ⟨0xF9D2, 0xF9D2, 1, 0x622E⟩, ⟨0xF9D3, 0xF9D3, 1, 0x9678⟩,
    ⟨0xF9D4, 0xF9D4, 1, 0x502B⟩, ⟨0xF9D5, 0xF9D5, 1, 0x5D19⟩, ⟨0xF9D6, 0xF9D6, 1, 0x6DEA⟩,
    ⟨0xF9D7, 0xF9D7, 1, 0x8F2A⟩, ⟨0xF9D8, 0xF9D8, 1, 0x5F8B⟩, ⟨0xF9D9, 0xF9D9, 1, 0x6144⟩,
    ⟨0xF9DA, 0xF9DA, 1, 0x6817⟩, ⟨0xF9DB, 0xF9DB, 1, 0x7387⟩, ⟨0xF9DC, 0xF9DC, 1, 0x9686⟩,
    ⟨0xF9DD, 0xF9DD, 1, 0x5229⟩, ⟨0xF9DE, 0xF9DE, 1, 0x540F⟩, ⟨0xF9DF, 0xF9DF, 1, 0x5C65⟩,
    ⟨0xF9E0, 0xF9E0, 1, 0x6613⟩, ⟨0xF9E1, 0xF9E1, 1, 0x674E⟩, ⟨0xF9E2, 0xF9E2, 1, 0x68A8⟩,
    ⟨0xF9E3, 0xF9E3, 1, 0x6CE5⟩, ⟨0xF9E4, 0xF9E4, 1, 0x7406⟩, ⟨0xF9E5, 0xF9E5, 1, 0x75E2⟩,
    ⟨0xF9E6, 0xF9E6, 1, 0x7F79⟩, ⟨0xF9E7, 0xF9E7, 1, 0x88CF⟩, ⟨0xF9E8, 0xF9E8, 1, 0x88E1⟩,
    ⟨0xF9E9, 0xF9E9, 1, 0x91CC⟩, ⟨0xF9EA, 0xF9EA, 1, 0x96E2⟩, ⟨0xF9EB, 0xF9EB, 1, 0x533F⟩,
    ⟨0xF9EC, 0xF9EC, 1, 0x6EBA⟩, ⟨0xF9ED, 0xF9ED, 1, 0x541D⟩, ⟨0xF9EE, 0xF9EE, 1, 0x71D0⟩,
    ⟨0xF9EF, 0xF9EF, 1, 0x7498⟩, ⟨0xF9F0, 0xF9F0, 1, 0x85FA⟩, ⟨0xF9F1, 0xF9F1, 1, 0x96A3⟩,
    ⟨0xF9F2, 0xF9F2, 1, 0x9C57⟩, ⟨0xF9F3, 0xF9F3, 1, 0x9E9F⟩, ⟨0xF9F4, 0xF9F4, 1, 0x6797⟩,
    ⟨0xF9F5, 0xF9F5, 1, 0x6DCB⟩, ⟨0xF9F6, 0xF9F6, 1, 0x81E8⟩, ⟨0xF9F7, 0xF9F7, 1, 0x7ACB⟩,
    ⟨0xF9F8, 0xF9F8, 1, 0x7B20⟩, ⟨0xF9F9, 0xF9F9, 1, 0x7C92⟩, ⟨0xF9FA, 0xF9FA, 1, 0x72C0⟩,
    ⟨0xF9FB, 0xF9FB, 1, 0x7099⟩, ⟨0xF9FC, 0xF9FC, 1, 0x8B58⟩, ⟨0xF9FD, 0xF9FD, 1, 0x4EC0⟩,
    ⟨0xF9FE, 0xF9FE, 1, 0x8336⟩, ⟨0xF9FF, 0xF9FF, 1, 0x523A⟩, ⟨0xFA00, 0xFA00, 1, 0x5207⟩,
    ⟨0xFA01, 0xFA01, 1, 0x5EA6⟩, ⟨0xFA02, 0xFA02, 1, 0x62D3⟩, ⟨0xFA03, 0xFA03, 1, 0x7CD6⟩,
    ⟨0xFA04, 0xFA04, 1, 0x5B85⟩, ⟨0xFA05, 0xFA05, 1, 0x6D1E⟩, ⟨0xFA06, 0xFA06, 1, 0x66B4⟩,
    ⟨0xFA07, 0xFA07, 1, 0x8F3B⟩, ⟨0xFA08, 0xFA08, 1, 0x884C⟩, ⟨0xFA09, 0xFA09, 1, 0x964D⟩,
    ⟨0xFA0A, 0xFA0A, 1, 0x898B⟩, ⟨0xFA0B, 0xFA0B, 1, 0x5ED3⟩, ⟨0xFA0C, 0xFA0C, 1, 0x5140⟩,
    ⟨0xFA0D, 0xFA0D, 1, 0x55C0⟩, ⟨0xFA10, 0xFA10, 1, 0x585A⟩, ⟨0xFA12, 0xFA12, 1, 0x6674⟩,
    ⟨0xFA15, 0xFA15, 1, 0x51DE⟩, ⟨0xFA16, 0xFA16, 1, 0x732A⟩, ⟨0xFA17, 0xFA17, 1, 0x76CA⟩,
    ⟨0xFA18, 0xFA18, 1, 0x793C⟩, ⟨0xFA19, 0xFA19, 1, 0x795E⟩, ⟨0xFA1A, 0xFA1A, 1, 0x7965⟩,
    ⟨0xFA1B, 0xFA1B, 1, 0x798F⟩, ⟨0xFA1C, 0xFA1C, 1, 0x9756⟩, ⟨0xFA1D, 0xFA1D, 1, 0x7CBE⟩,
    ⟨0xFA1E, 0xFA1E, 1, 0x7FBD⟩, ⟨0xFA20, 0xFA20, 1, 0x8612⟩, ⟨0xFA22, 0xFA22, 1, 0x8AF8⟩,
    ⟨0xFA25, 0xFA25, 1, 0x9038⟩, ⟨0xFA26, 0xFA26, 1, 0x90FD⟩, ⟨0xFA2A, 0xFA2A, 1, 0x98EF⟩,
    ⟨0xFA2B, 0xFA2B, 1, 0x98FC⟩, ⟨0xFA2C, 0xFA2C, 1, 0x9928⟩, ⟨0xFA2D, 0xFA2D, 1, 0x9DB4⟩,
    ⟨0xFA2E, 0xFA2E, 1, 0x90DE⟩, ⟨0xFA2F, 0xFA2F, 1, 0x96B7⟩, ⟨0xFA30, 0xFA30, 1, 0x4FAE⟩,
    ⟨0xFA31, 0xFA31, 1, 0x50E7⟩, ⟨0xFA32, 0xFA32, 1, 0x514D⟩, ⟨0xFA33, 0xFA33, 1, 0x52C9⟩,
    ⟨0xFA34, 0xFA34, 1, 0x52E4⟩, ⟨0xFA35, 0xFA35, 1, 0x5351⟩, ⟨0xFA36, 0xFA36, 1, 0x559D⟩,
    ⟨0xFA37, 0xFA37, 1, 0x5606⟩, ⟨0xFA38, 0xFA38, 1, 0x5668⟩, ⟨0xFA39, 0xFA39, 1, 0x5840⟩,
    ⟨0xFA3A, 0xFA3A, 1, 0x58A8⟩, ⟨0xFA3B, 0xFA3B, 1, 0x5C64⟩, ⟨0xFA3C, 0xFA3C, 1, 0x5C6E⟩,
    ⟨0xFA3D, 0xFA3D, 1, 0x6094⟩, ⟨0xFA3E, 0xFA3E, 1, 0x6168⟩, ⟨0xFA3F, 0xFA3F, 1, 0x618E⟩,
    ⟨0xFA40, 0xFA40, 1, 0x61F2⟩, ⟨0xFA41, 0xFA41, 1, 0x654F⟩, ⟨0xFA42, 0xFA42, 1, 0x65E2⟩,
    ⟨0xFA43, 0xFA43, 1, 0x6691⟩, ⟨0xFA44, 0xFA44, 1, 0x6885⟩, ⟨0xFA45, 0xFA45, 1, 0x6D77⟩,
    ⟨0xFA46, 0xFA46, 1, 0x6E1A⟩, ⟨0xFA47, 0xFA47, 1, 0x6F22⟩, ⟨0xFA48, 0xFA48, 1, 0x716E⟩,
    ⟨0xFA49, 0xFA49, 1, 0x722B⟩, ⟨0xFA4A, 0xFA4A, 1, 0x7422⟩, ⟨0xFA4B, 0xFA4B, 1, 0x7891⟩,
    ⟨0xFA4C, 0xFA4C, 1, 0x793E⟩, ⟨0xFA4D, 0xFA4D, 1, 0x7949⟩, ⟨0xFA4E, 0xFA4E, 1, 0x7948⟩,
    ⟨0xFA4F, 0xFA4F, 1, 0x7950⟩, ⟨0xFA50, 0xFA50, 1, 0x7956⟩, ⟨0xFA51, 0xFA51, 1, 0x795D⟩,
    ⟨0xFA52, 0xFA53, 1, 0x798D⟩, ⟨0xFA54, 0xFA54, 1, 0x7A40⟩, ⟨0xFA55, 0xFA55, 1, 0x7A81⟩,
    ⟨0xFA56, 0xFA56, 1, 0x7BC0⟩, ⟨0xFA57, 0xFA57, 1, 0x7DF4⟩, ⟨0xFA58, 0xFA58, 1, 0x7E09⟩,
    ⟨0xFA59, 0xFA59, 1, 0x7E41⟩, ⟨0xFA5A, 0xFA5A, 1, 0x7F72⟩, ⟨0xFA5B, 0xFA5B, 1, 0x8005⟩,
    ⟨0xFA5C, 0xFA5C, 1, 0x81ED⟩, ⟨0xFA5D, 0xFA5D, 1, 0x8279⟩, ⟨0xFA5E, 0xFA5E, 1, 0x8279⟩,
    ⟨0xFA5F, 0xFA5F, 1, 0x8457⟩, ⟨0xFA60, 0xFA60, 1, 0x8910⟩, ⟨0xFA61, 0xFA61, 1, 0x8996⟩,
    ⟨0xFA62, 0xFA62, 1, 0x8B01⟩, ⟨0xFA63, 0xFA63, 1, 0x8B39⟩, ⟨0xFA64, 0xFA64, 1, 0x8CD3⟩,
    ⟨0xFA65, 0xFA65, 1, 0x8D08⟩, ⟨0xFA66, 0xFA66, 1, 0x8FB6⟩, ⟨0xFA67, 0xFA67, 1, 0x9038⟩,
    ⟨0xFA68, 0xFA68, 1, 0x96E3⟩, ⟨0xFA69, 0xFA69, 1, 0x97FF⟩, ⟨0xFA6A, 0xFA6A, 1, 0x983B⟩,
    ⟨0xFA6B, 0xFA6B, 1, 0x6075⟩, ⟨0xFA6C, 0xFA6C, 1, 0x242EE⟩, ⟨0xFA6D, 0xFA6D, 1, 0x8218⟩,
    ⟨0xFA70, 0xFA70, 1, 0x4E26⟩, ⟨0xFA71, 0xFA71, 1, 0x51B5⟩, ⟨0xFA72, 0xFA72, 1, 0x5168⟩,
    ⟨0xFA73, 0xFA73, 1, 0x4F80⟩, ⟨0xFA74, 0xFA74, 1, 0x5145⟩, ⟨0xFA75, 0xFA75, 1, 0x5180⟩,
    ⟨0xFA76, 0xFA76, 1, 0x52C7⟩, ⟨0xFA77, 0xFA77, 1, 0x52FA⟩, ⟨0xFA78, 0xFA78, 1, 0x559D⟩,
    ⟨0xFA79, 0xFA79, 1, 0x5555⟩, ⟨0xFA7A, 0xFA7A, 1, 0x5599⟩, ⟨0xFA7B, 0xFA7B, 1, 0x55E2⟩,
    ⟨0xFA7C, 0xFA7C, 1, 0x585A⟩, ⟨0xFA7D, 0xFA7D, 1, 0x58B3⟩, ⟨0xFA7E, 0xFA7E, 1, 0x5944⟩,
    ⟨0xFA7F, 0xFA7F, 1, 0x5954⟩, ⟨0xFA80, 0xFA80, 1, 0x5A62⟩, ⟨0xFA81, 0xFA81, 1, 0x5B28⟩,
    ⟨0xFA82, 0xFA82, 1, 0x5ED2⟩, ⟨0xFA83, 0xFA83, 1, 0x5ED9⟩, ⟨0xFA84, 0xFA84, 1, 0x5F69⟩,
    ⟨0xFA85, 0xFA85, 1, 0x5FAD⟩, ⟨0xFA86, 0xFA86, 1, 0x60D8⟩, ⟨0xFA87, 0xFA87, 1, 0x614E⟩,
    ⟨0xFA88, 0xFA88, 1, 0x6108⟩, ⟨0xFA89, 0xFA89, 1, 0x618E⟩, ⟨0xFA8A, 0xFA8A, 1, 0x6160⟩,
    ⟨0xFA8B, 0xFA8B, 1, 0x61F2⟩, ⟨0xFA8C, 0xFA8C, 1, 0x6234⟩, ⟨0xFA8D, 0xFA8D, 1, 0x63C4⟩,
    ⟨0xFA8E, 0xFA8E, 1, 0x641C⟩, ⟨0xFA8F, 0xFA8F, 1, 0x6452⟩, ⟨0xFA90, 0xFA90, 1, 0x6556⟩,
    ⟨0xFA91, 0xFA91, 1, 0x6674⟩, ⟨0xFA92, 0xFA92, 1, 0x6717⟩, ⟨0xFA93, 0xFA93, 1, 0x671B⟩,
    ⟨0xFA94, 0xFA94, 1, 0x6756⟩, ⟨0xFA95, 0xFA95, 1, 0x6B79⟩, ⟨0xFA96, 0xFA96, 1, 0x6BBA⟩,
    ⟨0xFA97, 0xFA97, 1, 0x6D41⟩, ⟨0xFA98, 0xFA98, 1, 0x6EDB⟩, ⟨0xFA99, 0xFA99, 1, 0x6ECB⟩,
    ⟨0xFA9A, 0xFA9A, 1, 0x6F22⟩, ⟨0xFA9B, 0xFA9B, 1, 0x701E⟩, ⟨0xFA9C, 0xFA9C, 1, 0x716E⟩,
    ⟨0xFA9D, 0xFA9D, 1, 0x77A7⟩, ⟨0xFA9E, 0xFA9E, 1, 0x7235⟩, ⟨0xFA9F, 0xFA9F, 1, 0x72AF⟩,
    ⟨0xFAA0, 0xFAA0, 1, 0x732A⟩, ⟨0xFAA1, 0xFAA1, 1, 0x7471⟩, ⟨0xFAA2, 0xFAA2, 1, 0x7506⟩,
    ⟨0xFAA3, 0xFAA3, 1, 0x753B⟩, ⟨0xFAA4, 0xFAA4, 1, 0x761D⟩, ⟨0xFAA5, 0xFAA5, 1, 0x761F⟩,
    ⟨0xFAA6, 0xFAA6, 1, 0x76CA⟩, ⟨0xFAA7, 0xFAA7, 1, 0x76DB⟩, ⟨0xFAA8, 0xFAA8, 1, 0x76F4⟩,
    ⟨0xFAA9, 0xFAA9, 1, 0x774A⟩, ⟨0xFAAA, 0xFAAA, 1, 0x7740⟩, ⟨0xFAAB, 0xFAAB, 1, 0x78CC⟩,
    ⟨0xFAAC, 0xFAAC, 1, 0x7AB1⟩, ⟨0xFAAD, 0xFAAD, 1, 0x7BC0⟩, ⟨0xFAAE, 0xFAAE, 1, 0x7C7B⟩,
    ⟨0xFAAF, 0xFAAF, 1, 0x7D5B⟩, ⟨0xFAB0, 0xFAB0, 1, 0x7DF4⟩, ⟨0xFAB1, 0xFAB1, 1, 0x7F3E⟩,
    ⟨0xFAB2, 0xFAB2, 1, 0x8005⟩, ⟨0xFAB3, 0xFAB3, 1, 0x8352⟩, ⟨0xFAB4, 0xFAB4, 1, 0x83EF⟩,
    ⟨0xFAB5, 0xFAB5, 1, 0x8779⟩, ⟨0xFAB6, 0xFAB6, 1, 0x8941⟩, ⟨0xFAB7, 0xFAB7, 1, 0x8986⟩,
    ⟨0xFAB8, 0xFAB8, 1, 0x8996⟩, ⟨0xFAB9, 0xFAB9, 1, 0x8ABF⟩, ⟨0xFABA, 0xFABA, 1, 0x8AF8⟩,
    ⟨0xFABB, 0xFABB, 1, 0x8ACB⟩, ⟨0xFABC, 0xFABC, 1, 0x8B01⟩, ⟨0xFABD, 0xFABD, 1, 0x8AFE⟩,
    ⟨0xFABE, 0xFABE, 1, 0x8AED⟩, ⟨0xFABF, 0xFABF, 1, 0x8B39⟩, ⟨0xFAC0, 0xFAC0, 1, 0x8B8A⟩,
    ⟨0xFAC1, 0xFAC1, 1, 0x8D08⟩, ⟨0xFAC2, 0xFAC2, 1, 0x8F38⟩, ⟨0xFAC3, 0xFAC3, 1, 0x9072⟩,
    ⟨0xFAC4, 0xFAC4, 1, 0x9199⟩, ⟨0xFAC5, 0xFAC5, 1, 0x9276⟩, ⟨0xFAC6, 0xFAC6, 1, 0x967C⟩,
    ⟨0xFAC7, 0xFAC7, 1, 0x96E3⟩, ⟨0xFAC8, 0xFAC8, 1, 0x9756⟩, ⟨0xFAC9, 0xFAC9, 1, 0x97DB⟩,
    ⟨0xFACA, 0xFACA, 1, 0x97FF⟩, ⟨0xFACB, 0xFACB, 1, 0x980B⟩, ⟨0xFACC, 0xFACC, 1, 0x983B⟩,
    ⟨0xFACD, 0xFACD, 1, 0x9B12⟩, ⟨0xFACE, 0xFACE, 1, 0x9F9C⟩, ⟨0xFACF, 0xFACF, 1, 0x2284A⟩,
    ⟨0xFAD0, 0xFAD0, 1, 0x22844⟩, ⟨0xFAD1, 0xFAD1, 1, 0x233D5⟩, ⟨0xFAD2, 0xFAD2, 1, 0x3B9D⟩,
    ⟨0xFAD3, 0xFAD3, 1, 0x4018⟩, ⟨0xFAD4, 0xFAD4, 1, 0x4039⟩, ⟨0xFAD5, 0xFAD5, 1, 0x25249⟩,
    ⟨0xFAD6, 0xFAD6, 1, 0x25CD0⟩, ⟨0xFAD7, 0xFAD7, 1, 0x27ED3⟩, ⟨0xFAD8, 0xFAD8, 1, 0x9F43⟩,
    ⟨0xFAD9, 0xFAD9, 1, 0x9F8E⟩, ⟨0xFB20, 0xFB20, 1, 0x5E2⟩, ⟨0xFB21, 0xFB21, 1, 0x5D0⟩,
    ⟨0xFB22, 0xFB23, 1, 0x5D3⟩, ⟨0xFB24, 0xFB26, 1, 0x5DB⟩, ⟨0xFB27, 0xFB27, 1, 0x5E8⟩,
    ⟨0xFB28, 0xFB28, 1, 0x5EA⟩, ⟨0xFB50, 0xFB50, 1, 0x671⟩, ⟨0xFB51, 0xFB51, 1, 0x671⟩,
    ⟨0xFB52, 0xFB52, 1, 0x67B⟩, ⟨0xFB53, 0xFB53, 1, 0x67B⟩, ⟨0xFB54, 0xFB54, 1, 0x67B⟩,
    ⟨0xFB55, 0xFB55, 1, 0x67B⟩, ⟨0xFB56, 0xFB56, 1, 0x67E⟩, ⟨0xFB57, 0xFB57, 1, 0x67E⟩,
    ⟨0xFB58, 0xFB58, 1, 0x67E⟩, ⟨0xFB59, 0xFB59, 1, 0x67E⟩, ⟨0xFB5A, 0xFB5A, 1, 0x680⟩,
    ⟨0xFB5B, 0xFB5B, 1, 0x680⟩, ⟨0xFB5C, 0xFB5C, 1, 0x680⟩, ⟨0xFB5D, 0xFB5D, 1, 0x680⟩,
    ⟨0xFB5E, 0xFB5E, 1, 0x67A⟩, ⟨0xFB5F, 0xFB5F, 1, 0x67A⟩, ⟨0xFB60, 0xFB60, 1, 0x67A⟩,
    ⟨0xFB61, 0xFB61, 1, 0x67A⟩, ⟨0xFB62, 0xFB62, 1, 0x67F⟩, ⟨0xFB63, 0xFB63, 1, 0x67F⟩,
    ⟨0xFB64, 0xFB64, 1, 0x67F⟩, ⟨0xFB65, 0xFB65, 1, 0x67F⟩, ⟨0xFB66, 0xFB66, 1, 0x679⟩,
    ⟨0xFB67, 0xFB67, 1, 0x679⟩, ⟨0xFB68, 0xFB68, 1, 0x679⟩, ⟨0xFB69, 0xFB69, 1, 0x679⟩,
    ⟨0xFB6A, 0xFB6A, 1, 0x6A4⟩, ⟨0xFB6B, 0xFB6B, 1, 0x6A4⟩, ⟨0xFB6C, 0xFB6C, 1, 0x6A4⟩,
    ⟨0xFB6D, 0xFB6D, 1, 0x6A4⟩, ⟨0xFB6E, 0xFB6E, 1, 0x6A6⟩, ⟨0xFB6F, 0xFB6F, 1, 0x6A6⟩,
    ⟨0xFB70, 0xFB70, 1, 0x6A6⟩, ⟨0xFB71, 0xFB71, 1, 0x6A6⟩, ⟨0xFB72, 0xFB72, 1, 0x684⟩,
    ⟨0xFB73, 0xFB73, 1, 0x684⟩, ⟨0xFB74, 0xFB74, 1, 0x684⟩, ⟨0xFB75, 0xFB75, 1, 0x684⟩,
    ⟨0xFB76, 0xFB76, 1, 0x683⟩, ⟨0xFB77, 0xFB77, 1, 0x683⟩, ⟨0xFB78, 0xFB78, 1, 0x683⟩,
    ⟨0xFB79, 0xFB79, 1, 0x683⟩, ⟨0xFB7A, 0xFB7A, 1, 0x686⟩, ⟨0xFB7B, 0xFB7B, 1, 0x686⟩,
    ⟨0xFB7C, 0xFB7C, 1, 0x686⟩, ⟨0xFB7D, 0xFB7E, 1, 0x686⟩, ⟨0xFB7F, 0xFB7F, 1, 0x687⟩,
    ⟨0xFB80, 0xFB80, 1, 0x687⟩, ⟨0xFB81, 0xFB81, 1, 0x687⟩, ⟨0xFB82, 0xFB82, 1, 0x68D⟩,
    ⟨0xFB83, 0xFB83, 1, 0x68D⟩, ⟨0xFB84, 0xFB84, 1, 0x68C⟩, ⟨0xFB85, 0xFB85, 1, 0x68C⟩,
    ⟨0xFB86, 0xFB86, 1, 0x68E⟩, ⟨0xFB87, 0xFB87, 1, 0x68E⟩, ⟨0xFB88, 0xFB88, 1, 0x688⟩,
    ⟨0xFB89, 0xFB89, 1, 0x688⟩, ⟨0xFB8A, 0xFB8A, 1, 0x698⟩, ⟨0xFB8B, 0xFB8B, 1, 0x698⟩,
    ⟨0xFB8C, 0xFB8C, 1, 0x691⟩, ⟨0xFB8D, 0xFB8D, 1, 0x691⟩, ⟨0xFB8E, 0xFB8E, 1, 0x6A9⟩,
    ⟨0xFB8F, 0xFB8F, 1, 0x6A9⟩, ⟨0xFB90, 0xFB90, 1, 0x6A9⟩, ⟨0xFB91, 0xFB91, 1, 0x6A9⟩,
    ⟨0xFB92, 0xFB92, 1, 0x6AF⟩, ⟨0xFB93, 0xFB93, 1, 0x6AF⟩, ⟨0xFB94, 0xFB94, 1, 0x6AF⟩,
    ⟨0xFB95, 0xFB95, 1, 0x6AF⟩, ⟨0xFB96, 0xFB96, 1, 0x6B3⟩, ⟨0xFB97, 0xFB97, 1, 0x6B3⟩,
    ⟨0xFB98, 0xFB98, 1, 0x6B3⟩, ⟨0xFB99, 0xFB99, 1, 0x6B3⟩, ⟨0xFB9A, 0xFB9A, 1, 0x6B1⟩,
    ⟨0xFB9B, 0xFB9B, 1, 0x6B1⟩, ⟨0xFB9C, 0xFB9C, 1, 0x6B1⟩, ⟨0xFB9D, 0xFB9D, 1, 0x6B1⟩,
    ⟨0xFB9E, 0xFB9E, 1, 0x6BA⟩, ⟨0xFB9F, 0xFBA0, 1, 0x6BA⟩, ⟨0xFBA1, 0xFBA1, 1, 0x6BB⟩,
    ⟨0xFBA2, 0xFBA2, 1, 0x6BB⟩, ⟨0xFBA3, 0xFBA3, 1, 0x6BB⟩, ⟨0xFBA6, 0xFBA6, 1, 0x6C1⟩,
    ⟨0xFBA7, 0xFBA7, 1, 0x6C1⟩, ⟨0xFBA8, 0xFBA8, 1, 0x6C1⟩, ⟨0xFBA9, 0xFBA9, 1, 0x6C1⟩,
    ⟨0xFBAA, 0xFBAA, 1, 0x6BE⟩, ⟨0xFBAB, 0xFBAB, 1, 0x6BE⟩, ⟨0xFBAC, 0xFBAC, 1, 0x6BE⟩,
    ⟨0xFBAD, 0xFBAD, 1, 0x6BE⟩, ⟨0xFBAE, 0xFBAE, 1, 0x6D2⟩, ⟨0xFBAF, 0xFBAF, 1, 0x6D2⟩,
    ⟨0xFBD3, 0xFBD3, 1, 0x6AD⟩, ⟨0xFBD4, 0xFBD4, 1, 0x6AD⟩, ⟨0xFBD5, 0xFBD5, 1, 0x6AD⟩,
    ⟨0xFBD6, 0xFBD6, 1, 0x6AD⟩, ⟨0xFBD7, 0xFBD7, 1, 0x6C7⟩, ⟨0xFBD8, 0xFBD8, 1, 0x6C7⟩,
    ⟨0xFBD9, 0xFBD9, 1, 0x6C6⟩, ⟨0xFBDA, 0xFBDA, 1, 0x6C6⟩, ⟨0xFBDB, 0xFBDB, 1, 0x6C8⟩,
    ⟨0xFBDC, 0xFBDC, 1, 0x6C8⟩, ⟨0xFBDE, 0xFBDE, 1, 0x6CB⟩, ⟨0xFBDF, 0xFBDF, 1, 0x6CB⟩,
    ⟨0xFBE0, 0xFBE0, 1, 0x6C5⟩, ⟨0xFBE1, 0xFBE1, 1, 0x6C5⟩, ⟨0xFBE2, 0xFBE2, 1, 0x6C9⟩,
    ⟨0xFBE3, 0xFBE3, 1, 0x6C9⟩, ⟨0xFBE4, 0xFBE4, 1, 0x6D0⟩, ⟨0xFBE5, 0xFBE5, 1, 0x6D0⟩,
    ⟨0xFBE6, 0xFBE6, 1, 0x6D0⟩, ⟨0xFBE7, 0xFBE7, 1, 0x6D0⟩, ⟨0xFBE8, 0xFBE8, 1, 0x649⟩,
    ⟨0xFBE9, 0xFBE9, 1, 0x649⟩, ⟨0xFBFC, 0xFBFC, 1, 0x6CC⟩, ⟨0xFBFD, 0xFBFD, 1, 0x6CC⟩,
    ⟨0xFBFE, 0xFBFE, 1, 0x6CC⟩, ⟨0xFBFF, 0xFBFF, 1, 0x6CC⟩, ⟨0xFE33, 0xFE33, 1, 0x5F⟩,
    ⟨0xFE34, 0xFE34, 1, 0x5F⟩, ⟨0xFE4D, 0xFE4D, 1, 0x5F⟩, ⟨0xFE4E, 0xFE4E, 1, 0x5F⟩,
    ⟨0xFE4F, 0xFE4F, 1, 0x5F⟩, ⟨0xFE80, 0xFE80, 1, 0x621⟩, ⟨0xFE8D, 0xFE8D, 1, 0x627⟩,
    ⟨0xFE8E, 0xFE8F, 1, 0x627⟩, ⟨0xFE90, 0xFE90, 1, 0x628⟩, ⟨0xFE91, 0xFE91, 1, 0x628⟩,
    ⟨0xFE92, 0xFE93, 1, 0x628⟩, ⟨0xFE94, 0xFE95, 1, 0x629⟩, ⟨0xFE96, 0xFE96, 1, 0x62A⟩,
    ⟨0xFE97, 0xFE97, 1, 0x62A⟩, ⟨0xFE98, 0xFE99, 1, 0x62A⟩, ⟨0xFE9A, 0xFE9A, 1, 0x62B⟩,
    ⟨0xFE9B, 0xFE9B, 1, 0x62B⟩, ⟨0xFE9C, 0xFE9D, 1, 0x62B⟩, ⟨0xFE9E, 0xFE9E, 1, 0x62C⟩,
    ⟨0xFE9F, 0xFE9F, 1, 0x62C⟩, ⟨0xFEA0, 0xFEA1, 1, 0x62C⟩, ⟨0xFEA2, 0xFEA2, 1, 0x62D⟩,
    ⟨0xFEA3, 0xFEA3, 1, 0x62D⟩, ⟨0xFEA4, 0xFEA5, 1, 0x62D⟩, ⟨0xFEA6, 0xFEA6, 1, 0x62E⟩,
    ⟨0xFEA7, 0xFEA7, 1, 0x62E⟩, ⟨0xFEA8, 0xFEA9, 1, 0x62E⟩, ⟨0xFEAA, 0xFEAB, 1, 0x62F⟩,
    ⟨0xFEAC, 0xFEAD, 1, 0x630⟩, ⟨0xFEAE, 0xFEAF, 1, 0x631⟩, ⟨0xFEB0, 0xFEB1, 1, 0x632⟩,
    ⟨0xFEB2, 0xFEB2, 1, 0x633⟩, ⟨0xFEB3, 0xFEB3, 1, 0x633⟩, ⟨0xFEB4, 0xFEB5, 1, 0x633⟩,
    ⟨0xFEB6, 0xFEB6, 1, 0x634⟩, ⟨0xFEB7, 0xFEB7, 1, 0x634⟩, ⟨0xFEB8, 0xFEB9, 1, 0x634⟩,
    ⟨0xFEBA, 0xFEBA, 1, 0x635⟩, ⟨0xFEBB, 0xFEBB, 1, 0x635⟩, ⟨0xFEBC, 0xFEBD, 1, 0x635⟩,
    ⟨0xFEBE, 0xFEBE, 1, 0x636⟩, ⟨0xFEBF, 0xFEBF, 1, 0x636⟩, ⟨0xFEC0, 0xFEC1, 1, 0x636⟩,
    ⟨0xFEC2, 0xFEC2, 1, 0x637⟩, ⟨0xFEC3, 0xFEC3, 1, 0x637⟩, ⟨0xFEC4, 0xFEC5, 1, 0x637⟩,
    ⟨0xFEC6, 0xFEC6, 1, 0x638⟩, ⟨0xFEC7, 0xFEC7, 1, 0x638⟩, ⟨0xFEC8, 0xFEC9, 1, 0x638⟩,
    ⟨0xFECA, 0xFECA, 1, 0x639⟩, ⟨0xFECB, 0xFECB, 1, 0x639⟩, ⟨0xFECC, 0xFECD, 1, 0x639⟩,
    ⟨0xFECE, 0xFECE, 1, 0x63A⟩, ⟨0xFECF, 0xFECF, 1, 0x63A⟩, ⟨0xFED0, 0xFED0, 1, 0x63A⟩,
    ⟨0xFED1, 0xFED1, 1, 0x641⟩, ⟨0xFED2, 0xFED2, 1, 0x641⟩, ⟨0xFED3, 0xFED3, 1, 0x641⟩,
    ⟨0xFED4, 0xFED5, 1, 0x641⟩, ⟨0xFED6, 0xFED6, 1, 0x642⟩, ⟨0xFED7, 0xFED7, 1, 0x642⟩,
    ⟨0xFED8, 0xFED9, 1, 0x642⟩, ⟨0xFEDA, 0xFEDA, 1, 0x643⟩, ⟨0xFEDB, 0xFEDB, 1, 0x643⟩,
    ⟨0xFEDC, 0xFEDD, 1, 0x643⟩, ⟨0xFEDE, 0xFEDE, 1, 0x644⟩, ⟨0xFEDF, 0xFEDF, 1, 0x644⟩,
    ⟨0xFEE0, 0xFEE1, 1, 0x644⟩, ⟨0xFEE2, 0xFEE2, 1, 0x645⟩, ⟨0xFEE3, 0xFEE3, 1, 0x645⟩,
    ⟨0xFEE4, 0xFEE5, 1, 0x645⟩, ⟨0xFEE6, 0xFEE6, 1, 0x646⟩, ⟨0xFEE7, 0xFEE7, 1, 0x646⟩,
    ⟨0xFEE8, 0xFEE9, 1, 0x646⟩, ⟨0xFEEA, 0xFEEA, 1, 0x647⟩, ⟨0xFEEB, 0xFEEB, 1, 0x647⟩,
    ⟨0xFEEC, 0xFEED, 1, 0x647⟩, ⟨0xFEEE, 0xFEEF, 1, 0x648⟩, ⟨0xFEF0, 0xFEF1, 1, 0x649⟩,
    ⟨0xFEF2, 0xFEF2, 1, 0x64A⟩, ⟨0xFEF3, 0xFEF3, 1, 0x64A⟩, ⟨0xFEF4, 0xFEF4, 1, 0x64A⟩,
    ⟨0xFF10, 0xFF19, 1, 0x30⟩, ⟨0xFF21, 0xFF3A, 1, 0x41⟩, ⟨0xFF3F, 0xFF3F, 1, 0x5F⟩,
    ⟨0xFF41, 0xFF5A, 1, 0x61⟩, ⟨0xFF66, 0xFF66, 1, 0x30F2⟩, ⟨0xFF67, 0xFF67, 1, 0x30A1⟩,
    ⟨0xFF68, 0xFF68, 1, 0x30A3⟩, ⟨0xFF69, 0xFF69, 1, 0x30A5⟩, ⟨0xFF6A, 0xFF6A, 1, 0x30A7⟩,
    ⟨0xFF6B, 0xFF6B, 1, 0x30A9⟩, ⟨0xFF6C, 0xFF6C, 1, 0x30E3⟩, ⟨0xFF6D, 0xFF6D, 1, 0x30E5⟩,
    ⟨0xFF6E, 0xFF6E, 1, 0x30E7⟩, ⟨0xFF6F, 0xFF6F, 1, 0x30C3⟩, ⟨0xFF70, 0xFF70, 1, 0x30FC⟩,
    ⟨0xFF71, 0xFF71, 1, 0x30A2⟩, ⟨0xFF72, 0xFF72, 1, 0x30A4⟩, ⟨0xFF73, 0xFF73, 1, 0x30A6⟩,
    ⟨0xFF74, 0xFF74, 1, 0x30A8⟩, ⟨0xFF75, 0xFF76, 1, 0x30AA⟩, ⟨0xFF77, 0xFF77, 1, 0x30AD⟩,
    ⟨0xFF78, 0xFF78, 1, 0x30AF⟩, ⟨0xFF79, 0xFF79, 1, 0x30B1⟩, ⟨0xFF7A, 0xFF7A, 1, 0x30B3⟩,
    ⟨0xFF7B, 0xFF7B, 1, 0x30B5⟩, ⟨0xFF7C, 0xFF7C, 1, 0x30B7⟩, ⟨0xFF7D, 0xFF7D, 1, 0x30B9⟩,
    ⟨0xFF7E, 0xFF7E, 1, 0x30BB⟩, ⟨0xFF7F, 0xFF7F, 1, 0x30BD⟩, ⟨0xFF80, 0xFF80, 1, 0x30BF⟩,
    ⟨0xFF81, 0xFF81, 1, 0x30C1⟩, ⟨0xFF82, 0xFF82, 1, 0x30C4⟩, ⟨0xFF83, 0xFF83, 1, 0x30C6⟩,
    ⟨0xFF84, 0xFF84, 1, 0x30C8⟩, ⟨0xFF85, 0xFF8A, 1, 0x30CA⟩, ⟨0xFF8B, 0xFF8B, 1, 0x30D2⟩,
    ⟨0xFF8C, 0xFF8C, 1, 0x30D5⟩, ⟨0xFF8D, 0xFF8D, 1, 0x30D8⟩, ⟨0xFF8E, 0xFF8E, 1, 0x30DB⟩,
    ⟨0xFF8F, 0xFF93, 1, 0x30DE⟩, ⟨0xFF94, 0xFF94, 1, 0x30E4⟩, ⟨0xFF95, 0xFF95, 1, 0x30E6⟩,
    ⟨0xFF96, 0xFF9B, 1, 0x30E8⟩, ⟨0xFF9C, 0xFF9C, 1, 0x30EF⟩, ⟨0xFF9D, 0xFF9D, 1, 0x30F3⟩,
    ⟨0xFF9E, 0xFF9F, 1, 0x3099⟩, ⟨0xFFA0, 0xFFA0, 1, 0x1160⟩, ⟨0xFFA1, 0xFFA2, 1, 0x1100⟩,
    ⟨0xFFA3, 0xFFA3, 1, 0x11AA⟩, ⟨0xFFA4, 0xFFA4, 1, 0x1102⟩, ⟨0xFFA5, 0xFFA6, 1, 0x11AC⟩,
    ⟨0xFFA7, 0xFFA9, 1, 0x1103⟩, ⟨0xFFAA, 0xFFAF, 1, 0x11B0⟩, ⟨0xFFB0, 0xFFB0, 1, 0x111A⟩,
    ⟨0xFFB1, 0xFFB3, 1, 0x1106⟩, ⟨0xFFB4, 0xFFB4, 1, 0x1121⟩, ⟨0xFFB5, 0xFFBE, 1, 0x1109⟩,
    ⟨0xFFC2, 0xFFC7, 1, 0x1161⟩, ⟨0xFFCA, 0xFFCF, 1, 0x1167⟩, ⟨0xFFD2, 0xFFD7, 1, 0x116D⟩,
    ⟨0xFFDA, 0xFFDC, 1, 0x1173⟩, ⟨0x10781, 0x10782, 1, 0x2D0⟩, ⟨0x10783, 0x10783, 1, 0xE6⟩,
    ⟨0x10784, 0x10784, 1, 0x299⟩, ⟨0x10785, 0x10785, 1, 0x253⟩, ⟨0x10787, 0x10787, 1, 0x2A3⟩,
    ⟨0x10788, 0x10788, 1, 0xAB66⟩, ⟨0x10789, 0x10789, 1, 0x2A5⟩, ⟨0x1078A, 0x1078A, 1, 0x2A4⟩,
    ⟨0x1078B, 0x1078C, 1, 0x256⟩, ⟨0x1078D, 0x1078D, 1, 0x1D91⟩, ⟨0x1078E, 0x1078E, 1, 0x258⟩,
    ⟨0x1078F, 0x1078F, 1, 0x25E⟩, ⟨0x10790, 0x10790, 1, 0x2A9⟩, ⟨0x10791, 0x10791, 1, 0x264⟩,
    ⟨0x10792, 0x10792, 1, 0x262⟩, ⟨0x10793, 0x10793, 1, 0x260⟩, ⟨0x10794, 0x10794, 1, 0x29B⟩,
    ⟨0x10795, 0x10795, 1, 0x127⟩, ⟨0x10796, 0x10796, 1, 0x29C⟩, ⟨0x10797, 0x10797, 1, 0x267⟩,
    ⟨0x10798, 0x10798, 1, 0x284⟩, ⟨0x10799, 0x1079A, 1, 0x2AA⟩, ⟨0x1079B, 0x1079B, 1, 0x26C⟩,
    ⟨0x1079C, 0x1079C, 1, 0x1DF04⟩, ⟨0x1079D, 0x1079D, 1, 0xA78E⟩, ⟨0x1079E, 0x1079E, 1, 0x26E⟩,
    ⟨0x1079F, 0x1079F, 1, 0x1DF05⟩, ⟨0x107A0, 0x107A0, 1, 0x28E⟩, ⟨0x107A1, 0x107A1, 1, 0x1DF06⟩,
    ⟨0x107A2, 0x107A2, 1, 0xF8⟩, ⟨0x107A3, 0x107A4, 1, 0x276⟩, ⟨0x107A5, 0x107A5, 1, 0x71⟩,
    ⟨0x107A6, 0x107A6, 1, 0x27A⟩, ⟨0x107A7, 0x107A7, 1, 0x1DF08⟩, ⟨0x107A8, 0x107A9, 1, 0x27D⟩,
    ⟨0x107AA, 0x107AA, 1, 0x280⟩, ⟨0x107AB, 0x107AB, 1, 0x2A8⟩, ⟨0x107AC, 0x107AC, 1, 0x2A6⟩,
    ⟨0x107AD, 0x107AD, 1, 0xAB67⟩, ⟨0x107AE, 0x107AE, 1, 0x2A7⟩, ⟨0x107AF, 0x107AF, 1, 0x288⟩,
    ⟨0x107B0, 0x107B0, 1, 0x2C71⟩, ⟨0x107B2, 0x107B2, 1, 0x28F⟩, ⟨0x107B3, 0x107B4, 1, 0x2A1⟩,
    ⟨0x107B5, 0x107B5, 1, 0x298⟩, ⟨0x107B6, 0x107B8, 1, 0x1C0⟩, ⟨0x107B9, 0x107B9, 1, 0x1DF0A⟩,
    ⟨0x107BA, 0x107BA, 1, 0x1DF1E⟩, ⟨0x1D400, 0x1D419, 1, 0x41⟩, ⟨0x1D41A, 0x1D433, 1, 0x61⟩,
    ⟨0x1D434, 0x1D44D, 1, 0x41⟩, ⟨0x1D44E, 0x1D454, 1, 0x61⟩, ⟨0x1D456, 0x1D467, 1, 0x69⟩,
    ⟨0x1D468, 0x1D481, 1, 0x41⟩, ⟨0x1D482, 0x1D49B, 1, 0x61⟩, ⟨0x1D49C, 0x1D49C, 1, 0x41⟩,
    ⟨0x1D49E, 0x1D49F, 1, 0x43⟩, ⟨0x1D4A2, 0x1D4A2, 1, 0x47⟩, ⟨0x1D4A5, 0x1D4A6, 1, 0x4A⟩,
    ⟨0x1D4A9, 0x1D4AC, 1, 0x4E⟩, ⟨0x1D4AE, 0x1D4B5, 1, 0x53⟩, ⟨0x1D4B6, 0x1D4B9, 1, 0x61⟩,
    ⟨0x1D4BB, 0x1D4BB, 1, 0x66⟩, ⟨0x1D4BD, 0x1D4C3, 1, 0x68⟩, ⟨0x1D4C5, 0x1D4CF, 1, 0x70⟩,
    ⟨0x1D4D0, 0x1D4E9, 1, 0x41⟩, ⟨0x1D4EA, 0x1D503, 1, 0x61⟩, ⟨0x1D504, 0x1D505, 1, 0x41⟩,
    ⟨0x1D507, 0x1D50A, 1, 0x44⟩, ⟨0x1D50D, 0x1D514, 1, 0x4A⟩, ⟨0x1D516, 0x1D51C, 1, 0x53⟩,
    ⟨0x1D51E, 0x1D537, 1, 0x61⟩, ⟨0x1D538, 0x1D539, 1, 0x41⟩, ⟨0x1D53B, 0x1D53E, 1, 0x44⟩,
    ⟨0x1D540, 0x1D544, 1, 0x49⟩, ⟨0x1D546, 0x1D546, 1, 0x4F⟩, ⟨0x1D54A, 0x1D550, 1, 0x53⟩,
    ⟨0x1D552, 0x1D56B, 1, 0x61⟩, ⟨0x1D56C, 0x1D585, 1, 0x41⟩, ⟨0x1D586, 0x1D59F, 1, 0x61⟩,
    ⟨0x1D5A0, 0x1D5B9, 1, 0x41⟩, ⟨0x1D5BA, 0x1D5D3, 1, 0x61⟩, ⟨0x1D5D4, 0x1D5ED, 1, 0x41⟩,
    ⟨0x1D5EE, 0x1D607, 1, 0x61⟩, ⟨0x1D608, 0x1D621, 1, 0x41⟩, ⟨0x1D622, 0x1D63B, 1, 0x61⟩,
    ⟨0x1D63C, 0x1D655, 1, 0x41⟩, ⟨0x1D656, 0x1D66F, 1, 0x61⟩, ⟨0x1D670, 0x1D689, 1, 0x41⟩,
    ⟨0x1D68A, 0x1D6A3, 1, 0x61⟩, ⟨0x1D6A4, 0x1D6A4, 1, 0x131⟩, ⟨0x1D6A5, 0x1D6A5, 1, 0x237⟩,
    ⟨0x1D6A8, 0x1D6B8, 1, 0x391⟩, ⟨0x1D6B9, 0x1D6B9, 1, 0x398⟩, ⟨0x1D6BA, 0x1D6C0, 1, 0x3A3⟩,
    ⟨0x1D6C2, 0x1D6DA, 1, 0x3B1⟩, ⟨0x1D6DC, 0x1D6DC, 1, 0x3B5⟩, ⟨0x1D6DD, 0x1D6DD, 1, 0x3B8⟩,
    ⟨0x1D6DE, 0x1D6DE, 1, 0x3BA⟩, ⟨0x1D6DF, 0x1D6DF, 1, 0x3C6⟩, ⟨0x1D6E0, 0x1D6E0, 1, 0x3C1⟩,
    ⟨0x1D6E1, 0x1D6E1, 1, 0x3C0⟩, ⟨0x1D6E2, 0x1D6F2, 1, 0x391⟩, ⟨0x1D6F3, 0x1D6F3, 1, 0x398⟩,
    ⟨0x1D6F4, 0x1D6FA, 1, 0x3A3⟩, ⟨0x1D6FC, 0x1D714, 1, 0x3B1⟩, ⟨0x1D716, 0x1D716, 1, 0x3B5⟩,
    ⟨0x1D717, 0x1D717, 1, 0x3B8⟩, ⟨0x1D718, 0x1D718, 1, 0x3BA⟩, ⟨0x1D719, 0x1D719, 1, 0x3C6⟩,
    ⟨0x1D71A, 0x1D71A, 1, 0x3C1⟩, ⟨0x1D71B, 0x1D71B, 1, 0x3C0⟩, ⟨0x1D71C, 0x1D72C, 1, 0x391⟩,
    ⟨0x1D72D, 0x1D72D, 1, 0x398⟩, ⟨0x1D72E, 0x1D734, 1, 0x3A3⟩, ⟨0x1D736, 0x1D74E, 1, 0x3B1⟩,
    ⟨0x1D750, 0x1D750, 1, 0x3B5⟩, ⟨0x1D751, 0x1D751, 1, 0x3B8⟩, ⟨0x1D752, 0x1D752, 1, 0x3BA⟩,
    ⟨0x1D753, 0x1D753, 1, 0x3C6⟩, ⟨0x1D754, 0x1D754, 1, 0x3C1⟩, ⟨0x1D755, 0x1D755, 1, 0x3C0⟩,
    ⟨0x1D756, 0x1D766, 1, 0x391⟩, ⟨0x1D767, 0x1D767, 1, 0x398⟩, ⟨0x1D768, 0x1D76E, 1, 0x3A3⟩,
    ⟨0x1D770, 0x1D788, 1, 0x3B1⟩, ⟨0x1D78A, 0x1D78A, 1, 0x3B5⟩, ⟨0x1D78B, 0x1D78B, 1, 0x3B8⟩,
    ⟨0x1D78C, 0x1D78C, 1, 0x3BA⟩, ⟨0x1D78D, 0x1D78D, 1, 0x3C6⟩, ⟨0x1D78E, 0x1D78E, 1, 0x3C1⟩,
    ⟨0x1D78F, 0x1D78F, 1, 0x3C0⟩, ⟨0x1D790, 0x1D7A0, 1, 0x391⟩, ⟨0x1D7A1, 0x1D7A1, 1, 0x398⟩,
    ⟨0x1D7A2, 0x1D7A8, 1, 0x3A3⟩, ⟨0x1D7AA, 0x1D7C2, 1, 0x3B1⟩, ⟨0x1D7C4, 0x1D7C4, 1, 0x3B5⟩,
    ⟨0x1D7C5, 0x1D7C5, 1, 0x3B8⟩, ⟨0x1D7C6, 0x1D7C6, 1, 0x3BA⟩, ⟨0x1D7C7, 0x1D7C7, 1, 0x3C6⟩,
    ⟨0x1D7C8, 0x1D7C8, 1, 0x3C1⟩, ⟨0x1D7C9, 0x1D7C9, 1, 0x3C0⟩, ⟨0x1D7CA, 0x1D7CB, 1, 0x3DC⟩,
    ⟨0x1D7CE, 0x1D7D7, 1, 0x30⟩, ⟨0x1D7D8, 0x1D7E1, 1, 0x30⟩, ⟨0x1D7E2, 0x1D7EB, 1, 0x30⟩,
    ⟨0x1D7EC, 0x1D7F5, 1, 0x30⟩, ⟨0x1D7F6, 0x1D7FF, 1, 0x30⟩, ⟨0x1EE00, 0x1EE01, 1, 0x627⟩,
    ⟨0x1EE02, 0x1EE02, 1, 0x62C⟩, ⟨0x1EE03, 0x1EE03, 1, 0x62F⟩, ⟨0x1EE05, 0x1EE05, 1, 0x648⟩,
    ⟨0x1EE06, 0x1EE06, 1, 0x632⟩, ⟨0x1EE07, 0x1EE07, 1, 0x62D⟩, ⟨0x1EE08, 0x1EE08, 1, 0x637⟩,
    ⟨0x1EE09, 0x1EE09, 1, 0x64A⟩, ⟨0x1EE0A, 0x1EE0D, 1, 0x643⟩, ⟨0x1EE0E, 0x1EE0E, 1, 0x633⟩,
    ⟨0x1EE0F, 0x1EE0F, 1, 0x639⟩, ⟨0x1EE10, 0x1EE10, 1, 0x641⟩, ⟨0x1EE11, 0x1EE11, 1, 0x635⟩,
    ⟨0x1EE12, 0x1EE12, 1, 0x642⟩, ⟨0x1EE13, 0x1EE13, 1, 0x631⟩, ⟨0x1EE14, 0x1EE14, 1, 0x634⟩,
    ⟨0x1EE15, 0x1EE16, 1, 0x62A⟩, ⟨0x1EE17, 0x1EE17, 1, 0x62E⟩, ⟨0x1EE18, 0x1EE18, 1, 0x630⟩,
    ⟨0x1EE19, 0x1EE19, 1, 0x636⟩, ⟨0x1EE1A, 0x1EE1A, 1, 0x638⟩, ⟨0x1EE1B, 0x1EE1B, 1, 0x63A⟩,
    ⟨0x1EE1C, 0x1EE1C, 1, 0x66E⟩, ⟨0x1EE1D, 0x1EE1D, 1, 0x6BA⟩, ⟨0x1EE1E, 0x1EE1E, 1, 0x6A1⟩,
    ⟨0x1EE1F, 0x1EE1F, 1, 0x66F⟩, ⟨0x1EE21, 0x1EE21, 1, 0x628⟩, ⟨0x1EE22, 0x1EE22, 1, 0x62C⟩,
    ⟨0x1EE24, 0x1EE24, 1, 0x647⟩, ⟨0x1EE27, 0x1EE27, 1, 0x62D⟩, ⟨0x1EE29, 0x1EE29, 1, 0x64A⟩,
    ⟨0x1EE2A, 0x1EE2D, 1, 0x643⟩, ⟨0x1EE2E, 0x1EE2E, 1, 0x633⟩, ⟨0x1EE2F, 0x1EE2F, 1, 0x639⟩,
    ⟨0x1EE30, 0x1EE30, 1, 0x641⟩, ⟨0x1EE31, 0x1EE31, 1, 0x635⟩, ⟨0x1EE32, 0x1EE32, 1, 0x642⟩,
    ⟨0x1EE34, 0x1EE34, 1, 0x634⟩, ⟨0x1EE35, 0x1EE36, 1, 0x62A⟩, ⟨0x1EE37, 0x1EE37, 1, 0x62E⟩,
    ⟨0x1EE39, 0x1EE39, 1, 0x636⟩, ⟨0x1EE3B, 0x1EE3B, 1, 0x63A⟩, ⟨0x1EE42, 0x1EE42, 1, 0x62C⟩,
    ⟨0x1EE47, 0x1EE47, 1, 0x62D⟩, ⟨0x1EE49, 0x1EE49, 1, 0x64A⟩, ⟨0x1EE4B, 0x1EE4B, 1, 0x644⟩,
    ⟨0x1EE4D, 0x1EE4D, 1, 0x646⟩, ⟨0x1EE4E, 0x1EE4E, 1, 0x633⟩, ⟨0x1EE4F, 0x1EE4F, 1, 0x639⟩,
    ⟨0x1EE51, 0x1EE51, 1, 0x635⟩, ⟨0x1EE52, 0x1EE52, 1, 0x642⟩, ⟨0x1EE54, 0x1EE54, 1, 0x634⟩,
    ⟨0x1EE57, 0x1EE57, 1, 0x62E⟩, ⟨0x1EE59, 0x1EE59, 1, 0x636⟩, ⟨0x1EE5B, 0x1EE5B, 1, 0x63A⟩,
    ⟨0x1EE5D, 0x1EE5D, 1, 0x6BA⟩, ⟨0x1EE5F, 0x1EE5F, 1, 0x66F⟩, ⟨0x1EE61, 0x1EE61, 1, 0x628⟩,
    ⟨0x1EE62, 0x1EE62, 1, 0x62C⟩, ⟨0x1EE64, 0x1EE64, 1, 0x647⟩, ⟨0x1EE67, 0x1EE67, 1, 0x62D⟩,
    ⟨0x1EE68, 0x1EE68, 1, 0x637⟩, ⟨0x1EE69, 0x1EE69, 1, 0x64A⟩, ⟨0x1EE6A, 0x1EE6A, 1, 0x643⟩,
    ⟨0x1EE6C, 0x1EE6D, 1, 0x645⟩, ⟨0x1EE6E, 0x1EE6E, 1, 0x633⟩, ⟨0x1EE6F, 0x1EE6F, 1, 0x639⟩,
    ⟨0x1EE70, 0x1EE70, 1, 0x641⟩, ⟨0x1EE71, 0x1EE71, 1, 0x635⟩, ⟨0x1EE72, 0x1EE72, 1, 0x642⟩,
    ⟨0x1EE74, 0x1EE74, 1, 0x634⟩, ⟨0x1EE75, 0x1EE76, 1, 0x62A⟩, ⟨0x1EE77, 0x1EE77, 1, 0x62E⟩,
    ⟨0x1EE79, 0x1EE79, 1, 0x636⟩, ⟨0x1EE7A, 0x1EE7A, 1, 0x638⟩, ⟨0x1EE7B, 0x1EE7B, 1, 0x63A⟩,
    ⟨0x1EE7C, 0x1EE7C, 1, 0x66E⟩, ⟨0x1EE7E, 0x1EE7E, 1, 0x6A1⟩, ⟨0x1EE80, 0x1EE81, 1, 0x627⟩,
    ⟨0x1EE82, 0x1EE82, 1, 0x62C⟩, ⟨0x1EE83, 0x1EE83, 1, 0x62F⟩, ⟨0x1EE84, 0x1EE85, 1, 0x647⟩,
    ⟨0x1EE86, 0x1EE86, 1, 0x632⟩, ⟨0x1EE87, 0x1EE87, 1, 0x62D⟩, ⟨0x1EE88, 0x1EE88, 1, 0x637⟩,
    ⟨0x1EE89, 0x1EE89, 1, 0x64A⟩, ⟨0x1EE8B, 0x1EE8D, 1, 0x644⟩, ⟨0x1EE8E, 0x1EE8E, 1, 0x633⟩,
    ⟨0x1EE8F, 0x1EE8F, 1, 0x639⟩, ⟨0x1EE90, 0x1EE90, 1, 0x641⟩, ⟨0x1EE91, 0x1EE91, 1, 0x635⟩,
    ⟨0x1EE92, 0x1EE92, 1, 0x642⟩, ⟨0x1EE93, 0x1EE93, 1, 0x631⟩, ⟨0x1EE94, 0x1EE94, 1, 0x634⟩,
    ⟨0x1EE95, 0x1EE96, 1, 0x62A⟩, ⟨0x1EE97, 0x1EE97, 1, 0x62E⟩, ⟨0x1EE98, 0x1EE98, 1, 0x630⟩,
    ⟨0x1EE99, 0x1EE99, 1, 0x636⟩, ⟨0x1EE9A, 0x1EE9A, 1, 0x638⟩, ⟨0x1EE9B, 0x1EE9B, 1, 0x63A⟩,
    ⟨0x1EEA1, 0x1EEA1, 1, 0x628⟩, ⟨0x1EEA2, 0x1EEA2, 1, 0x62C⟩, ⟨0x1EEA3, 0x1EEA3, 1, 0x62F⟩,
    ⟨0x1EEA5, 0x1EEA5, 1, 0x648⟩, ⟨0x1EEA6, 0x1EEA6, 1, 0x632⟩, ⟨0x1EEA7, 0x1EEA7, 1, 0x62D⟩,
    ⟨0x1EEA8, 0x1EEA8, 1, 0x637⟩, ⟨0x1EEA9, 0x1EEA9, 1, 0x64A⟩, ⟨0x1EEAB, 0x1EEAD, 1, 0x644⟩,
    ⟨0x1EEAE, 0x1EEAE, 1, 0x633⟩, ⟨0x1EEAF, 0x1EEAF, 1, 0x639⟩, ⟨0x1EEB0, 0x1EEB0, 1, 0x641⟩,
    ⟨0x1EEB1, 0x1EEB1, 1, 0x635⟩, ⟨0x1EEB2, 0x1EEB2, 1, 0x642⟩, ⟨0x1EEB3, 0x1EEB3, 1, 0x631⟩,
    ⟨0x1EEB4, 0x1EEB4, 1, 0x634⟩, ⟨0x1EEB5, 0x1EEB6, 1, 0x62A⟩, ⟨0x1EEB7, 0x1EEB7, 1, 0x62E⟩,
    ⟨0x1EEB8, 0x1EEB8, 1, 0x630⟩, ⟨0x1EEB9, 0x1EEB9, 1, 0x636⟩, ⟨0x1EEBA, 0x1EEBA, 1, 0x638⟩,
    ⟨0x1EEBB, 0x1EEBB, 1, 0x63A⟩, ⟨0x1FBF0, 0x1FBF9, 1, 0x30⟩, ⟨0x2F800, 0x2F800, 1, 0x4E3D⟩,
    ⟨0x2F801, 0x2F801, 1, 0x4E38⟩, ⟨0x2F802, 0x2F802, 1, 0x4E41⟩, ⟨0x2F803, 0x2F803, 1, 0x20122⟩,
    ⟨0x2F804, 0x2F804, 1, 0x4F60⟩, ⟨0x2F805, 0x2F805, 1, 0x4FAE⟩, ⟨0x2F806, 0x2F806, 1, 0x4FBB⟩,
    ⟨0x2F807, 0x2F807, 1, 0x5002⟩, ⟨0x2F808, 0x2F808, 1, 0x507A⟩, ⟨0x2F809, 0x2F809, 1, 0x5099⟩,
    ⟨0x2F80A, 0x2F80A, 1, 0x50E7⟩, ⟨0x2F80B, 0x2F80B, 1, 0x50CF⟩, ⟨0x2F80C, 0x2F80C, 1, 0x349E⟩,
    ⟨0x2F80D, 0x2F80D, 1, 0x2063A⟩, ⟨0x2F80E, 0x2F80E, 1, 0x514D⟩, ⟨0x2F80F, 0x2F80F, 1, 0x5154⟩,
    ⟨0x2F810, 0x2F810, 1, 0x5164⟩, ⟨0x2F811, 0x2F811, 1, 0x5177⟩, ⟨0x2F812, 0x2F812, 1, 0x2051C⟩,
    ⟨0x2F813, 0x2F813, 1, 0x34B9⟩, ⟨0x2F814, 0x2F814, 1, 0x5167⟩, ⟨0x2F815, 0x2F815, 1, 0x518D⟩,
    ⟨0x2F816, 0x2F816, 1, 0x2054B⟩, ⟨0x2F817, 0x2F817, 1, 0x5197⟩, ⟨0x2F818, 0x2F818, 1, 0x51A4⟩,
    ⟨0x2F819, 0x2F819, 1, 0x4ECC⟩, ⟨0x2F81A, 0x2F81A, 1, 0x51AC⟩, ⟨0x2F81B, 0x2F81B, 1, 0x51B5⟩,
    ⟨0x2F81C, 0x2F81C, 1, 0x291DF⟩, ⟨0x2F81D, 0x2F81D, 1, 0x51F5⟩, ⟨0x2F81E, 0x2F81E, 1, 0x5203⟩,
    ⟨0x2F81F, 0x2F81F, 1, 0x34DF⟩, ⟨0x2F820, 0x2F820, 1, 0x523B⟩, ⟨0x2F821, 0x2F821, 1, 0x5246⟩,
    ⟨0x2F822, 0x2F822, 1, 0x5272⟩, ⟨0x2F823, 0x2F823, 1, 0x5277⟩, ⟨0x2F824, 0x2F824, 1, 0x3515⟩,
    ⟨0x2F825, 0x2F825, 1, 0x52C7⟩, ⟨0x2F826, 0x2F826, 1, 0x52C9⟩, ⟨0x2F827, 0x2F827, 1, 0x52E4⟩,
    ⟨0x2F828, 0x2F828, 1, 0x52FA⟩, ⟨0x2F829, 0x2F82A, 1, 0x5305⟩, ⟨0x2F82B, 0x2F82B, 1, 0x5317⟩,
    ⟨0x2F82C, 0x2F82C, 1, 0x5349⟩, ⟨0x2F82D, 0x2F82D, 1, 0x5351⟩, ⟨0x2F82E, 0x2F82E, 1, 0x535A⟩,
    ⟨0x2F82F, 0x2F82F, 1, 0x5373⟩, ⟨0x2F830, 0x2F830, 1, 0x537D⟩, ⟨0x2F831, 0x2F831, 1, 0x537F⟩,
    ⟨0x2F832, 0x2F832, 1, 0x537F⟩, ⟨0x2F833, 0x2F833, 1, 0x537F⟩, ⟨0x2F834, 0x2F834, 1, 0x20A2C⟩,
    ⟨0x2F835, 0x2F835, 1, 0x7070⟩, ⟨0x2F836, 0x2F836, 1, 0x53CA⟩, ⟨0x2F837, 0x2F837, 1, 0x53DF⟩,
    ⟨0x2F838, 0x2F838, 1, 0x20B63⟩, ⟨0x2F839, 0x2F839, 1, 0x53EB⟩, ⟨0x2F83A, 0x2F83A, 1, 0x53F1⟩,
    ⟨0x2F83B, 0x2F83B, 1, 0x5406⟩, ⟨0x2F83C, 0x2F83C, 1, 0x549E⟩, ⟨0x2F83D, 0x2F83D, 1, 0x5438⟩,
    ⟨0x2F83E, 0x2F83E, 1, 0x5448⟩, ⟨0x2F83F, 0x2F83F, 1, 0x5468⟩, ⟨0x2F840, 0x2F840, 1, 0x54A2⟩,
    ⟨0x2F841, 0x2F841, 1, 0x54F6⟩, ⟨0x2F842, 0x2F842, 1, 0x5510⟩, ⟨0x2F843, 0x2F843, 1, 0x5553⟩,
    ⟨0x2F844, 0x2F844, 1, 0x5563⟩, ⟨0x2F845, 0x2F845, 1, 0x5584⟩, ⟨0x2F846, 0x2F846, 1, 0x5584⟩,
    ⟨0x2F847, 0x2F847, 1, 0x5599⟩, ⟨0x2F848, 0x2F848, 1, 0x55AB⟩, ⟨0x2F849, 0x2F849, 1, 0x55B3⟩,
    ⟨0x2F84A, 0x2F84A, 1, 0x55C2⟩, ⟨0x2F84B, 0x2F84B, 1, 0x5716⟩, ⟨0x2F84C, 0x2F84C, 1, 0x5606⟩,
    ⟨0x2F84D, 0x2F84D, 1, 0x5717⟩, ⟨0x2F84E, 0x2F84E, 1, 0x5651⟩, ⟨0x2F84F, 0x2F84F, 1, 0x5674⟩,
    ⟨0x2F850, 0x2F850, 1, 0x5207⟩, ⟨0x2F851, 0x2F851, 1, 0x58EE⟩, ⟨0x2F852, 0x2F852, 1, 0x57CE⟩,
    ⟨0x2F853, 0x2F853, 1, 0x57F4⟩, ⟨0x2F854, 0x2F854, 1, 0x580D⟩, ⟨0x2F855, 0x2F855, 1, 0x578B⟩,
    ⟨0x2F856, 0x2F856, 1, 0x5832⟩, ⟨0x2F857, 0x2F857, 1, 0x5831⟩, ⟨0x2F858, 0x2F858, 1, 0x58AC⟩,
    ⟨0x2F859, 0x2F859, 1, 0x214E4⟩, ⟨0x2F85A, 0x2F85A, 1, 0x58F2⟩, ⟨0x2F85B, 0x2F85B, 1, 0x58F7⟩,
    ⟨0x2F85C, 0x2F85C, 1, 0x5906⟩, ⟨0x2F85D, 0x2F85D, 1, 0x591A⟩, ⟨0x2F85E, 0x2F85E, 1, 0x5922⟩,
    ⟨0x2F85F, 0x2F85F, 1, 0x5962⟩, ⟨0x2F860, 0x2F860, 1, 0x216A8⟩, ⟨0x2F861, 0x2F861, 1, 0x216EA⟩,
    ⟨0x2F862, 0x2F862, 1, 0x59EC⟩, ⟨0x2F863, 0x2F863, 1, 0x5A1B⟩, ⟨0x2F864, 0x2F864, 1, 0x5A27⟩,
    ⟨0x2F865, 0x2F865, 1, 0x59D8⟩, ⟨0x2F866, 0x2F866, 1, 0x5A66⟩, ⟨0x2F867, 0x2F867, 1, 0x36EE⟩,
    ⟨0x2F868, 0x2F868, 1, 0x36FC⟩, ⟨0x2F869, 0x2F869, 1, 0x5B08⟩, ⟨0x2F86A, 0x2F86A, 1, 0x5B3E⟩,
    ⟨0x2F86B, 0x2F86B, 1, 0x5B3E⟩, ⟨0x2F86C, 0x2F86C, 1, 0x219C8⟩, ⟨0x2F86D, 0x2F86D, 1, 0x5BC3⟩,
    ⟨0x2F86E, 0x2F86E, 1, 0x5BD8⟩, ⟨0x2F86F, 0x2F86F, 1, 0x5BE7⟩, ⟨0x2F870, 0x2F870, 1, 0x5BF3⟩,
    ⟨0x2F871, 0x2F871, 1, 0x21B18⟩, ⟨0x2F872, 0x2F872, 1, 0x5BFF⟩, ⟨0x2F873, 0x2F873, 1, 0x5C06⟩,
    ⟨0x2F874, 0x2F874, 1, 0x5F53⟩, ⟨0x2F875, 0x2F875, 1, 0x5C22⟩, ⟨0x2F876, 0x2F876, 1, 0x3781⟩,
    ⟨0x2F877, 0x2F877, 1, 0x5C60⟩, ⟨0x2F878, 0x2F878, 1, 0x5C6E⟩, ⟨0x2F879, 0x2F879, 1, 0x5CC0⟩,
    ⟨0x2F87A, 0x2F87A, 1, 0x5C8D⟩, ⟨0x2F87B, 0x2F87B, 1, 0x21DE4⟩, ⟨0x2F87C, 0x2F87C, 1, 0x5D43⟩,
    ⟨0x2F87D, 0x2F87D, 1, 0x21DE6⟩, ⟨0x2F87E, 0x2F87E, 1, 0x5D6E⟩, ⟨0x2F87F, 0x2F87F, 1, 0x5D6B⟩,
    ⟨0x2F880, 0x2F880, 1, 0x5D7C⟩, ⟨0x2F881, 0x2F882, 1, 0x5DE1⟩, ⟨0x2F883, 0x2F883, 1, 0x382F⟩,
    ⟨0x2F884, 0x2F884, 1, 0x5DFD⟩, ⟨0x2F885, 0x2F885, 1, 0x5E28⟩, ⟨0x2F886, 0x2F886, 1, 0x5E3D⟩,
    ⟨0x2F887, 0x2F887, 1, 0x5E69⟩, ⟨0x2F888, 0x2F888, 1, 0x3862⟩, ⟨0x2F889, 0x2F889, 1, 0x22183⟩,
    ⟨0x2F88A, 0x2F88A, 1, 0x387C⟩, ⟨0x2F88B, 0x2F88B, 1, 0x5EB0⟩, ⟨0x2F88C, 0x2F88C, 1, 0x5EB3⟩,
    ⟨0x2F88D, 0x2F88D, 1, 0x5EB6⟩, ⟨0x2F88E, 0x2F88E, 1, 0x5ECA⟩, ⟨0x2F88F, 0x2F88F, 1, 0x2A392⟩,
    ⟨0x2F890, 0x2F890, 1, 0x5EFE⟩, ⟨0x2F891, 0x2F891, 1, 0x22331⟩, ⟨0x2F892, 0x2F892, 1, 0x22331⟩,
    ⟨0x2F893, 0x2F893, 1, 0x8201⟩, ⟨0x2F894, 0x2F894, 1, 0x5F22⟩, ⟨0x2F895, 0x2F895, 1, 0x5F22⟩,
    ⟨0x2F896, 0x2F896, 1, 0x38C7⟩, ⟨0x2F897, 0x2F897, 1, 0x232B8⟩, ⟨0x2F898, 0x2F898, 1, 0x261DA⟩,
    ⟨0x2F899, 0x2F899, 1, 0x5F62⟩, ⟨0x2F89A, 0x2F89A, 1, 0x5F6B⟩, ⟨0x2F89B, 0x2F89B, 1, 0x38E3⟩,
    ⟨0x2F89C, 0x2F89C, 1, 0x5F9A⟩, ⟨0x2F89D, 0x2F89D, 1, 0x5FCD⟩, ⟨0x2F89E, 0x2F89E, 1, 0x5FD7⟩,
    ⟨0x2F89F, 0x2F89F, 1, 0x5FF9⟩, ⟨0x2F8A0, 0x2F8A0, 1, 0x6081⟩, ⟨0x2F8A1, 0x2F8A1, 1, 0x393A⟩,
    ⟨0x2F8A2, 0x2F8A2, 1, 0x391C⟩, ⟨0x2F8A3, 0x2F8A3, 1, 0x6094⟩, ⟨0x2F8A4, 0x2F8A4, 1, 0x226D4⟩,
    ⟨0x2F8A5, 0x2F8A5, 1, 0x60C7⟩, ⟨0x2F8A6, 0x2F8A6, 1, 0x6148⟩, ⟨0x2F8A7, 0x2F8A7, 1, 0x614C⟩,
    ⟨0x2F8A8, 0x2F8A8, 1, 0x614E⟩, ⟨0x2F8A9, 0x2F8A9, 1, 0x614C⟩, ⟨0x2F8AA, 0x2F8AA, 1, 0x617A⟩,
    ⟨0x2F8AB, 0x2F8AB, 1, 0x618E⟩, ⟨0x2F8AC, 0x2F8AC, 1, 0x61B2⟩, ⟨0x2F8AD, 0x2F8AD, 1, 0x61A4⟩,
    ⟨0x2F8AE, 0x2F8AE, 1, 0x61AF⟩, ⟨0x2F8AF, 0x2F8AF, 1, 0x61DE⟩, ⟨0x2F8B0, 0x2F8B0, 1, 0x61F2⟩,
    ⟨0x2F8B1, 0x2F8B1, 1, 0x61F6⟩, ⟨0x2F8B2, 0x2F8B2, 1, 0x6210⟩, ⟨0x2F8B3, 0x2F8B3, 1, 0x621B⟩,
    ⟨0x2F8B4, 0x2F8B4, 1, 0x625D⟩, ⟨0x2F8B5, 0x2F8B5, 1, 0x62B1⟩, ⟨0x2F8B6, 0x2F8B6, 1, 0x62D4⟩,
    ⟨0x2F8B7, 0x2F8B7, 1, 0x6350⟩, ⟨0x2F8B8, 0x2F8B8, 1, 0x22B0C⟩, ⟨0x2F8B9, 0x2F8B9, 1, 0x633D⟩,
    ⟨0x2F8BA, 0x2F8BA, 1, 0x62FC⟩, ⟨0x2F8BB, 0x2F8BB, 1, 0x6368⟩, ⟨0x2F8BC, 0x2F8BC, 1, 0x6383⟩,
    ⟨0x2F8BD, 0x2F8BD, 1, 0x63E4⟩, ⟨0x2F8BE, 0x2F8BE, 1, 0x22BF1⟩, ⟨0x2F8BF, 0x2F8BF, 1, 0x6422⟩,
    ⟨0x2F8C0, 0x2F8C0, 1, 0x63C5⟩, ⟨0x2F8C1, 0x2F8C1, 1, 0x63A9⟩, ⟨0x2F8C2, 0x2F8C2, 1, 0x3A2E⟩,
    ⟨0x2F8C3, 0x2F8C3, 1, 0x6469⟩, ⟨0x2F8C4, 0x2F8C4, 1, 0x647E⟩, ⟨0x2F8C5, 0x2F8C5, 1, 0x649D⟩,
    ⟨0x2F8C6, 0x2F8C6, 1, 0x6477⟩, ⟨0x2F8C7, 0x2F8C7, 1, 0x3A6C⟩, ⟨0x2F8C8, 0x2F8C8, 1, 0x654F⟩,
    ⟨0x2F8C9, 0x2F8C9, 1, 0x656C⟩, ⟨0x2F8CA, 0x2F8CA, 1, 0x2300A⟩, ⟨0x2F8CB, 0x2F8CB, 1, 0x65E3⟩,
    ⟨0x2F8CC, 0x2F8CC, 1, 0x66F8⟩, ⟨0x2F8CD, 0x2F8CD, 1, 0x6649⟩, ⟨0x2F8CE, 0x2F8CE, 1, 0x3B19⟩,
    ⟨0x2F8CF, 0x2F8CF, 1, 0x6691⟩, ⟨0x2F8D0, 0x2F8D0, 1, 0x3B08⟩, ⟨0x2F8D1, 0x2F8D1, 1, 0x3AE4⟩,
    ⟨0x2F8D2, 0x2F8D2, 1, 0x5192⟩, ⟨0x2F8D3, 0x2F8D3, 1, 0x5195⟩, ⟨0x2F8D4, 0x2F8D4, 1, 0x6700⟩,
    ⟨0x2F8D5, 0x2F8D5, 1, 0x669C⟩, ⟨0x2F8D6, 0x2F8D6, 1, 0x80AD⟩, ⟨0x2F8D7, 0x2F8D7, 1, 0x43D9⟩,
    ⟨0x2F8D8, 0x2F8D8, 1, 0x6717⟩, ⟨0x2F8D9, 0x2F8D9, 1, 0x671B⟩, ⟨0x2F8DA, 0x2F8DA, 1, 0x6721⟩,
    ⟨0x2F8DB, 0x2F8DB, 1, 0x675E⟩, ⟨0x2F8DC, 0x2F8DC, 1, 0x6753⟩, ⟨0x2F8DD, 0x2F8DD, 1, 0x233C3⟩,
    ⟨0x2F8DE, 0x2F8DE, 1, 0x3B49⟩, ⟨0x2F8DF, 0x2F8DF, 1, 0x67FA⟩, ⟨0x2F8E0, 0x2F8E0, 1, 0x6785⟩,
    ⟨0x2F8E1, 0x2F8E1, 1, 0x6852⟩, ⟨0x2F8E2, 0x2F8E2, 1, 0x6885⟩, ⟨0x2F8E3, 0x2F8E3, 1, 0x2346D⟩,
    ⟨0x2F8E4, 0x2F8E4, 1, 0x688E⟩, ⟨0x2F8E5, 0x2F8E5, 1, 0x681F⟩, ⟨0x2F8E6, 0x2F8E6, 1, 0x6914⟩,
    ⟨0x2F8E7, 0x2F8E7, 1, 0x3B9D⟩, ⟨0x2F8E8, 0x2F8E8, 1, 0x6942⟩, ⟨0x2F8E9, 0x2F8E9, 1, 0x69A3⟩,
    ⟨0x2F8EA, 0x2F8EA, 1, 0x69EA⟩, ⟨0x2F8EB, 0x2F8EB, 1, 0x6AA8⟩, ⟨0x2F8EC, 0x2F8EC, 1, 0x236A3⟩,
    ⟨0x2F8ED, 0x2F8ED, 1, 0x6ADB⟩, ⟨0x2F8EE, 0x2F8EE, 1, 0x3C18⟩, ⟨0x2F8EF, 0x2F8EF, 1, 0x6B21⟩,
    ⟨0x2F8F0, 0x2F8F0, 1, 0x238A7⟩, ⟨0x2F8F1, 0x2F8F1, 1, 0x6B54⟩, ⟨0x2F8F2, 0x2F8F2, 1, 0x3C4E⟩,
    ⟨0x2F8F3, 0x2F8F3, 1, 0x6B72⟩, ⟨0x2F8F4, 0x2F8F4, 1, 0x6B9F⟩, ⟨0x2F8F5, 0x2F8F6, 1, 0x6BBA⟩,
    ⟨0x2F8F7, 0x2F8F7, 1, 0x23A8D⟩, ⟨0x2F8F8, 0x2F8F8, 1, 0x21D0B⟩, ⟨0x2F8F9, 0x2F8F9, 1, 0x23AFA⟩,
    ⟨0x2F8FA, 0x2F8FA, 1, 0x6C4E⟩, ⟨0x2F8FB, 0x2F8FB, 1, 0x23CBC⟩, ⟨0x2F8FC, 0x2F8FC, 1, 0x6CBF⟩,
    ⟨0x2F8FD, 0x2F8FD, 1, 0x6CCD⟩, ⟨0x2F8FE, 0x2F8FE, 1, 0x6C67⟩, ⟨0x2F8FF, 0x2F8FF, 1, 0x6D16⟩,
    ⟨0x2F900, 0x2F900, 1, 0x6D3E⟩, ⟨0x2F901, 0x2F901, 1, 0x6D77⟩, ⟨0x2F902, 0x2F902, 1, 0x6D41⟩,
    ⟨0x2F903, 0x2F903, 1, 0x6D69⟩, ⟨0x2F904, 0x2F904, 1, 0x6D78⟩, ⟨0x2F905, 0x2F905, 1, 0x6D85⟩,
    ⟨0x2F906, 0x2F906, 1, 0x23D1E⟩, ⟨0x2F907, 0x2F907, 1, 0x6D34⟩, ⟨0x2F908, 0x2F908, 1, 0x6E2F⟩,
    ⟨0x2F909, 0x2F909, 1, 0x6E6E⟩, ⟨0x2F90A, 0x2F90A, 1, 0x3D33⟩, ⟨0x2F90B, 0x2F90B, 1, 0x6ECB⟩,
    ⟨0x2F90C, 0x2F90C, 1, 0x6EC7⟩, ⟨0x2F90D, 0x2F90D, 1, 0x23ED1⟩, ⟨0x2F90E, 0x2F90E, 1, 0x6DF9⟩,
    ⟨0x2F90F, 0x2F90F, 1, 0x6F6E⟩, ⟨0x2F910, 0x2F910, 1, 0x23F5E⟩, ⟨0x2F911, 0x2F911, 1, 0x23F8E⟩,
    ⟨0x2F912, 0x2F912, 1, 0x6FC6⟩, ⟨0x2F913, 0x2F913, 1, 0x7039⟩, ⟨0x2F914, 0x2F914, 1, 0x701E⟩,
    ⟨0x2F915, 0x2F915, 1, 0x701B⟩, ⟨0x2F916, 0x2F916, 1, 0x3D96⟩, ⟨0x2F917, 0x2F917, 1, 0x704A⟩,
    ⟨0x2F918, 0x2F918, 1, 0x707D⟩, ⟨0x2F919, 0x2F919, 1, 0x7077⟩, ⟨0x2F91A, 0x2F91A, 1, 0x70AD⟩,
    ⟨0x2F91B, 0x2F91B, 1, 0x20525⟩, ⟨0x2F91C, 0x2F91C, 1, 0x7145⟩, ⟨0x2F91D, 0x2F91D, 1, 0x24263⟩,
    ⟨0x2F91E, 0x2F91E, 1, 0x719C⟩, ⟨0x2F91F, 0x2F91F, 1, 0x243AB⟩, ⟨0x2F920, 0x2F920, 1, 0x7228⟩,
    ⟨0x2F921, 0x2F921, 1, 0x7235⟩, ⟨0x2F922, 0x2F922, 1, 0x7250⟩, ⟨0x2F923, 0x2F923, 1, 0x24608⟩,
    ⟨0x2F924, 0x2F924, 1, 0x7280⟩, ⟨0x2F925, 0x2F925, 1, 0x7295⟩, ⟨0x2F926, 0x2F926, 1, 0x24735⟩,
    ⟨0x2F927, 0x2F927, 1, 0x24814⟩, ⟨0x2F928, 0x2F928, 1, 0x737A⟩, ⟨0x2F929, 0x2F929, 1, 0x738B⟩,
    ⟨0x2F92A, 0x2F92A, 1, 0x3EAC⟩, ⟨0x2F92B, 0x2F92B, 1, 0x73A5⟩, ⟨0x2F92C, 0x2F92C, 1, 0x3EB8⟩,
    ⟨0x2F92D, 0x2F92D, 1, 0x3EB8⟩, ⟨0x2F92E, 0x2F92E, 1, 0x7447⟩, ⟨0x2F92F, 0x2F92F, 1, 0x745C⟩,
    ⟨0x2F930, 0x2F930, 1, 0x7471⟩, ⟨0x2F931, 0x2F931, 1, 0x7485⟩, ⟨0x2F932, 0x2F932, 1, 0x74CA⟩,
    ⟨0x2F933, 0x2F933, 1, 0x3F1B⟩, ⟨0x2F934, 0x2F934, 1, 0x7524⟩, ⟨0x2F935, 0x2F935, 1, 0x24C36⟩,
    ⟨0x2F936, 0x2F936, 1, 0x753E⟩, ⟨0x2F937, 0x2F937, 1, 0x24C92⟩, ⟨0x2F938, 0x2F938, 1, 0x7570⟩,
    ⟨0x2F939, 0x2F939, 1, 0x2219F⟩, ⟨0x2F93A, 0x2F93A, 1, 0x7610⟩, ⟨0x2F93B, 0x2F93B, 1, 0x24FA1⟩,
    ⟨0x2F93C, 0x2F93C, 1, 0x24FB8⟩, ⟨0x2F93D, 0x2F93D, 1, 0x25044⟩, ⟨0x2F93E, 0x2F93E, 1, 0x3FFC⟩,
    ⟨0x2F93F, 0x2F93F, 1, 0x4008⟩, ⟨0x2F940, 0x2F940, 1, 0x76F4⟩, ⟨0x2F941, 0x2F941, 1, 0x250F3⟩,
    ⟨0x2F942, 0x2F942, 1, 0x250F2⟩, ⟨0x2F943, 0x2F943, 1, 0x25119⟩, ⟨0x2F944, 0x2F944, 1, 0x25133⟩,
    ⟨0x2F945, 0x2F946, 1, 0x771E⟩, ⟨0x2F947, 0x2F947, 1, 0x771F⟩, ⟨0x2F948, 0x2F948, 1, 0x774A⟩,
    ⟨0x2F949, 0x2F949, 1, 0x4039⟩, ⟨0x2F94A, 0x2F94A, 1, 0x778B⟩, ⟨0x2F94B, 0x2F94B, 1, 0x4046⟩,
    ⟨0x2F94C, 0x2F94C, 1, 0x4096⟩, ⟨0x2F94D, 0x2F94D, 1, 0x2541D⟩, ⟨0x2F94E, 0x2F94E, 1, 0x784E⟩,
    ⟨0x2F94F, 0x2F94F, 1, 0x788C⟩, ⟨0x2F950, 0x2F950, 1, 0x78CC⟩, ⟨0x2F951, 0x2F951, 1, 0x40E3⟩,
    ⟨0x2F952, 0x2F952, 1, 0x25626⟩, ⟨0x2F953, 0x2F953, 1, 0x7956⟩, ⟨0x2F954, 0x2F954, 1, 0x2569A⟩,
    ⟨0x2F955, 0x2F955, 1, 0x256C5⟩, ⟨0x2F956, 0x2F956, 1, 0x798F⟩, ⟨0x2F957, 0x2F957, 1, 0x79EB⟩,
    ⟨0x2F958, 0x2F958, 1, 0x412F⟩, ⟨0x2F959, 0x2F959, 1, 0x7A40⟩, ⟨0x2F95A, 0x2F95A, 1, 0x7A4A⟩,
    ⟨0x2F95B, 0x2F95B, 1, 0x7A4F⟩, ⟨0x2F95C, 0x2F95C, 1, 0x2597C⟩, ⟨0x2F95D, 0x2F95D, 1, 0x25AA7⟩,
    ⟨0x2F95E, 0x2F95E, 1, 0x25AA7⟩, ⟨0x2F95F, 0x2F95F, 1, 0x7AEE⟩, ⟨0x2F960, 0x2F960, 1, 0x4202⟩,
    ⟨0x2F961, 0x2F961, 1, 0x25BAB⟩, ⟨0x2F962, 0x2F962, 1, 0x7BC6⟩, ⟨0x2F963, 0x2F963, 1, 0x7BC9⟩,
    ⟨0x2F964, 0x2F964, 1, 0x4227⟩, ⟨0x2F965, 0x2F965, 1, 0x25C80⟩, ⟨0x2F966, 0x2F966, 1, 0x7CD2⟩,
    ⟨0x2F967, 0x2F967, 1, 0x42A0⟩, ⟨0x2F968, 0x2F968, 1, 0x7CE8⟩, ⟨0x2F969, 0x2F969, 1, 0x7CE3⟩,
    ⟨0x2F96A, 0x2F96A, 1, 0x7D00⟩, ⟨0x2F96B, 0x2F96B, 1, 0x25F86⟩, ⟨0x2F96C, 0x2F96C, 1, 0x7D63⟩,
    ⟨0x2F96D, 0x2F96D, 1, 0x4301⟩, ⟨0x2F96E, 0x2F96E, 1, 0x7DC7⟩, ⟨0x2F96F, 0x2F96F, 1, 0x7E02⟩,
    ⟨0x2F970, 0x2F970, 1, 0x7E45⟩, ⟨0x2F971, 0x2F971, 1, 0x4334⟩, ⟨0x2F972, 0x2F972, 1, 0x26228⟩,
    ⟨0x2F973, 0x2F973, 1, 0x26247⟩, ⟨0x2F974, 0x2F974, 1, 0x4359⟩, ⟨0x2F975, 0x2F975, 1, 0x262D9⟩,
    ⟨0x2F976, 0x2F976, 1, 0x7F7A⟩, ⟨0x2F977, 0x2F977, 1, 0x2633E⟩, ⟨0x2F978, 0x2F978, 1, 0x7F95⟩,
    ⟨0x2F979, 0x2F979, 1, 0x7FFA⟩, ⟨0x2F97A, 0x2F97A, 1, 0x8005⟩, ⟨0x2F97B, 0x2F97B, 1, 0x264DA⟩,
    ⟨0x2F97C, 0x2F97C, 1, 0x26523⟩, ⟨0x2F97D, 0x2F97D, 1, 0x8060⟩, ⟨0x2F97E, 0x2F97E, 1, 0x265A8⟩,
    ⟨0x2F97F, 0x2F97F, 1, 0x8070⟩, ⟨0x2F980, 0x2F980, 1, 0x2335F⟩, ⟨0x2F981, 0x2F981, 1, 0x43D5⟩,
    ⟨0x2F982, 0x2F982, 1, 0x80B2⟩, ⟨0x2F983, 0x2F983, 1, 0x8103⟩, ⟨0x2F984, 0x2F984, 1, 0x440B⟩,
    ⟨0x2F985, 0x2F985, 1, 0x813E⟩, ⟨0x2F986, 0x2F986, 1, 0x5AB5⟩, ⟨0x2F987, 0x2F987, 1, 0x267A7⟩,
    ⟨0x2F988, 0x2F988, 1, 0x267B5⟩, ⟨0x2F989, 0x2F989, 1, 0x23393⟩, ⟨0x2F98A, 0x2F98A, 1, 0x2339C⟩,
    ⟨0x2F98B, 0x2F98B, 1, 0x8201⟩, ⟨0x2F98C, 0x2F98C, 1, 0x8204⟩, ⟨0x2F98D, 0x2F98D, 1, 0x8F9E⟩,
    ⟨0x2F98E, 0x2F98E, 1, 0x446B⟩, ⟨0x2F98F, 0x2F98F, 1, 0x8291⟩, ⟨0x2F990, 0x2F990, 1, 0x828B⟩,
    ⟨0x2F991, 0x2F991, 1, 0x829D⟩, ⟨0x2F992, 0x2F992, 1, 0x52B3⟩, ⟨0x2F993, 0x2F993, 1, 0x82B1⟩,
    ⟨0x2F994, 0x2F994, 1, 0x82B3⟩, ⟨0x2F995, 0x2F995, 1, 0x82BD⟩, ⟨0x2F996, 0x2F996, 1, 0x82E6⟩,
    ⟨0x2F997, 0x2F997, 1, 0x26B3C⟩, ⟨0x2F998, 0x2F998, 1, 0x82E5⟩, ⟨0x2F999, 0x2F999, 1, 0x831D⟩,
    ⟨0x2F99A, 0x2F99A, 1, 0x8363⟩, ⟨0x2F99B, 0x2F99B, 1, 0x83AD⟩, ⟨0x2F99C, 0x2F99C, 1, 0x8323⟩,
    ⟨0x2F99D, 0x2F99D, 1, 0x83BD⟩, ⟨0x2F99E, 0x2F99E, 1, 0x83E7⟩, ⟨0x2F99F, 0x2F99F, 1, 0x8457⟩,
    ⟨0x2F9A0, 0x2F9A0, 1, 0x8353⟩, ⟨0x2F9A1, 0x2F9A1, 1, 0x83CA⟩, ⟨0x2F9A2, 0x2F9A2, 1, 0x83CC⟩,
    ⟨0x2F9A3, 0x2F9A3, 1, 0x83DC⟩, ⟨0x2F9A4, 0x2F9A4, 1, 0x26C36⟩, ⟨0x2F9A5, 0x2F9A5, 1, 0x26D6B⟩,
    ⟨0x2F9A6, 0x2F9A6, 1, 0x26CD5⟩, ⟨0x2F9A7, 0x2F9A7, 1, 0x452B⟩, ⟨0x2F9A8, 0x2F9A8, 1, 0x84F1⟩,
    ⟨0x2F9A9, 0x2F9A9, 1, 0x84F3⟩, ⟨0x2F9AA, 0x2F9AA, 1, 0x8516⟩, ⟨0x2F9AB, 0x2F9AB, 1, 0x273CA⟩,
    ⟨0x2F9AC, 0x2F9AC, 1, 0x8564⟩, ⟨0x2F9AD, 0x2F9AD, 1, 0x26F2C⟩, ⟨0x2F9AE, 0x2F9AE, 1, 0x455D⟩,
    ⟨0x2F9AF, 0x2F9AF, 1, 0x4561⟩, ⟨0x2F9B0, 0x2F9B0, 1, 0x26FB1⟩, ⟨0x2F9B1, 0x2F9B1, 1, 0x270D2⟩,
    ⟨0x2F9B2, 0x2F9B2, 1, 0x456B⟩, ⟨0x2F9B3, 0x2F9B3, 1, 0x8650⟩, ⟨0x2F9B4, 0x2F9B4, 1, 0x865C⟩,
    ⟨0x2F9B5, 0x2F9B5, 1, 0x8667⟩, ⟨0x2F9B6, 0x2F9B6, 1, 0x8669⟩, ⟨0x2F9B7, 0x2F9B7, 1, 0x86A9⟩,
    ⟨0x2F9B8, 0x2F9B8, 1, 0x8688⟩, ⟨0x2F9B9, 0x2F9B9, 1, 0x870E⟩, ⟨0x2F9BA, 0x2F9BA, 1, 0x86E2⟩,
    ⟨0x2F9BB, 0x2F9BB, 1, 0x8779⟩, ⟨0x2F9BC, 0x2F9BC, 1, 0x8728⟩, ⟨0x2F9BD, 0x2F9BD, 1, 0x876B⟩,
    ⟨0x2F9BE, 0x2F9BE, 1, 0x8786⟩, ⟨0x2F9BF, 0x2F9BF, 1, 0x45D7⟩, ⟨0x2F9C0, 0x2F9C0, 1, 0x87E1⟩,
    ⟨0x2F9C1, 0x2F9C1, 1, 0x8801⟩, ⟨0x2F9C2, 0x2F9C2, 1, 0x45F9⟩, ⟨0x2F9C3, 0x2F9C3, 1, 0x8860⟩,
    ⟨0x2F9C4, 0x2F9C4, 1, 0x8863⟩, ⟨0x2F9C5, 0x2F9C5, 1, 0x27667⟩, ⟨0x2F9C6, 0x2F9C6, 1, 0x88D7⟩,
    ⟨0x2F9C7, 0x2F9C7, 1, 0x88DE⟩, ⟨0x2F9C8, 0x2F9C8, 1, 0x4635⟩, ⟨0x2F9C9, 0x2F9C9, 1, 0x88FA⟩,
    ⟨0x2F9CA, 0x2F9CA, 1, 0x34BB⟩, ⟨0x2F9CB, 0x2F9CB, 1, 0x278AE⟩, ⟨0x2F9CC, 0x2F9CC, 1, 0x27966⟩,
    ⟨0x2F9CD, 0x2F9CD, 1, 0x46BE⟩, ⟨0x2F9CE, 0x2F9CE, 1, 0x46C7⟩, ⟨0x2F9CF, 0x2F9CF, 1, 0x8AA0⟩,
    ⟨0x2F9D0, 0x2F9D0, 1, 0x8AED⟩, ⟨0x2F9D1, 0x2F9D1, 1, 0x8B8A⟩, ⟨0x2F9D2, 0x2F9D2, 1, 0x8C55⟩,
    ⟨0x2F9D3, 0x2F9D3, 1, 0x27CA8⟩, ⟨0x2F9D4, 0x2F9D4, 1, 0x8CAB⟩, ⟨0x2F9D5, 0x2F9D5, 1, 0x8CC1⟩,
    ⟨0x2F9D6, 0x2F9D6, 1, 0x8D1B⟩, ⟨0x2F9D7, 0x2F9D7, 1, 0x8D77⟩, ⟨0x2F9D8, 0x2F9D8, 1, 0x27F2F⟩,
    ⟨0x2F9D9, 0x2F9D9, 1, 0x20804⟩, ⟨0x2F9DA, 0x2F9DA, 1, 0x8DCB⟩, ⟨0x2F9DB, 0x2F9DB, 1, 0x8DBC⟩,
    ⟨0x2F9DC, 0x2F9DC, 1, 0x8DF0⟩, ⟨0x2F9DD, 0x2F9DD, 1, 0x208DE⟩, ⟨0x2F9DE, 0x2F9DE, 1, 0x8ED4⟩,
    ⟨0x2F9DF, 0x2F9DF, 1, 0x8F38⟩, ⟨0x2F9E0, 0x2F9E0, 1, 0x285D2⟩, ⟨0x2F9E1, 0x2F9E1, 1, 0x285ED⟩,
    ⟨0x2F9E2, 0x2F9E2, 1, 0x9094⟩, ⟨0x2F9E3, 0x2F9E3, 1, 0x90F1⟩, ⟨0x2F9E4, 0x2F9E4, 1, 0x9111⟩,
    ⟨0x2F9E5, 0x2F9E5, 1, 0x2872E⟩, ⟨0x2F9E6, 0x2F9E6, 1, 0x911B⟩, ⟨0x2F9E7, 0x2F9E7, 1, 0x9238⟩,
    ⟨0x2F9E8, 0x2F9E9, 1, 0x92D7⟩, ⟨0x2F9EA, 0x2F9EA, 1, 0x927C⟩, ⟨0x2F9EB, 0x2F9EB, 1, 0x93F9⟩,
    ⟨0x2F9EC, 0x2F9EC, 1, 0x9415⟩, ⟨0x2F9ED, 0x2F9ED, 1, 0x28BFA⟩, ⟨0x2F9EE, 0x2F9EE, 1, 0x958B⟩,
    ⟨0x2F9EF, 0x2F9EF, 1, 0x4995⟩, ⟨0x2F9F0, 0x2F9F0, 1, 0x95B7⟩, ⟨0x2F9F1, 0x2F9F1, 1, 0x28D77⟩,
    ⟨0x2F9F2, 0x2F9F2, 1, 0x49E6⟩, ⟨0x2F9F3, 0x2F9F3, 1, 0x96C3⟩, ⟨0x2F9F4, 0x2F9F4, 1, 0x5DB2⟩,
    ⟨0x2F9F5, 0x2F9F5, 1, 0x9723⟩, ⟨0x2F9F6, 0x2F9F6, 1, 0x29145⟩, ⟨0x2F9F7, 0x2F9F7, 1, 0x2921A⟩,
    ⟨0x2F9F8, 0x2F9F8, 1, 0x4A6E⟩, ⟨0x2F9F9, 0x2F9F9, 1, 0x4A76⟩, ⟨0x2F9FA, 0x2F9FA, 1, 0x97E0⟩,
    ⟨0x2F9FB, 0x2F9FB, 1, 0x2940A⟩, ⟨0x2F9FC, 0x2F9FC, 1, 0x4AB2⟩, ⟨0x2F9FD, 0x2F9FD, 1, 0x29496⟩,
    ⟨0x2F9FE, 0x2F9FE, 1, 0x980B⟩, ⟨0x2F9FF, 0x2F9FF, 1, 0x980B⟩, ⟨0x2FA00, 0x2FA00, 1, 0x9829⟩,
    ⟨0x2FA01, 0x2FA01, 1, 0x295B6⟩, ⟨0x2FA02, 0x2FA02, 1, 0x98E2⟩, ⟨0x2FA03, 0x2FA03, 1, 0x4B33⟩,
    ⟨0x2FA04, 0x2FA04, 1, 0x9929⟩, ⟨0x2FA05, 0x2FA05, 1, 0x99A7⟩, ⟨0x2FA06, 0x2FA06, 1, 0x99C2⟩,
    ⟨0x2FA07, 0x2FA07, 1, 0x99FE⟩, ⟨0x2FA08, 0x2FA08, 1, 0x4BCE⟩, ⟨0x2FA09, 0x2FA09, 1, 0x29B30⟩,
    ⟨0x2FA0A, 0x2FA0A, 1, 0x9B12⟩, ⟨0x2FA0B, 0x2FA0B, 1, 0x9C40⟩, ⟨0x2FA0C, 0x2FA0C, 1, 0x9CFD⟩,
    ⟨0x2FA0D, 0x2FA0D, 1, 0x4CCE⟩, ⟨0x2FA0E, 0x2FA0E, 1, 0x4CED⟩, ⟨0x2FA0F, 0x2FA0F, 1, 0x9D67⟩,
    ⟨0x2FA10, 0x2FA10, 1, 0x2A0CE⟩, ⟨0x2FA11, 0x2FA11, 1, 0x4CF8⟩, ⟨0x2FA12, 0x2FA12, 1, 0x2A105⟩,
    ⟨0x2FA13, 0x2FA13, 1, 0x2A20E⟩, ⟨0x2FA14, 0x2FA14, 1, 0x2A291⟩, ⟨0x2FA15, 0x2FA15, 1, 0x9EBB⟩,
    ⟨0x2FA16, 0x2FA16, 1, 0x4D56⟩, ⟨0x2FA17, 0x2FA17, 1, 0x9EF9⟩, ⟨0x2FA18, 0x2FA18, 1, 0x9EFE⟩,
    ⟨0x2FA19, 0x2FA19, 1, 0x9F05⟩, ⟨0x2FA1A, 0x2FA1A, 1, 0x9F0F⟩, ⟨0x2FA1B, 0x2FA1B, 1, 0x9F16⟩,
    ⟨0x2FA1C, 0x2FA1C, 1, 0x9F3B⟩, ⟨0x2FA1D, 0x2FA1D, 1, 0x2A600⟩]

set_option maxRecDepth 20000 in
/-- Name characters that stand for several characters. -/
def decompositions : Array (Nat × Array Nat) :=
  #[(0xC0, #[0x41, 0x300]), (0xC1, #[0x41, 0x301]), (0xC2, #[0x41, 0x302]), (0xC3, #[0x41, 0x303]),
    (0xC4, #[0x41, 0x308]), (0xC5, #[0x41, 0x30A]), (0xC7, #[0x43, 0x327]), (0xC8, #[0x45, 0x300]),
    (0xC9, #[0x45, 0x301]), (0xCA, #[0x45, 0x302]), (0xCB, #[0x45, 0x308]), (0xCC, #[0x49, 0x300]),
    (0xCD, #[0x49, 0x301]), (0xCE, #[0x49, 0x302]), (0xCF, #[0x49, 0x308]), (0xD1, #[0x4E, 0x303]),
    (0xD2, #[0x4F, 0x300]), (0xD3, #[0x4F, 0x301]), (0xD4, #[0x4F, 0x302]), (0xD5, #[0x4F, 0x303]),
    (0xD6, #[0x4F, 0x308]), (0xD9, #[0x55, 0x300]), (0xDA, #[0x55, 0x301]), (0xDB, #[0x55, 0x302]),
    (0xDC, #[0x55, 0x308]), (0xDD, #[0x59, 0x301]), (0xE0, #[0x61, 0x300]), (0xE1, #[0x61, 0x301]),
    (0xE2, #[0x61, 0x302]), (0xE3, #[0x61, 0x303]), (0xE4, #[0x61, 0x308]), (0xE5, #[0x61, 0x30A]),
    (0xE7, #[0x63, 0x327]), (0xE8, #[0x65, 0x300]), (0xE9, #[0x65, 0x301]), (0xEA, #[0x65, 0x302]),
    (0xEB, #[0x65, 0x308]), (0xEC, #[0x69, 0x300]), (0xED, #[0x69, 0x301]), (0xEE, #[0x69, 0x302]),
    (0xEF, #[0x69, 0x308]), (0xF1, #[0x6E, 0x303]), (0xF2, #[0x6F, 0x300]), (0xF3, #[0x6F, 0x301]),
    (0xF4, #[0x6F, 0x302]), (0xF5, #[0x6F, 0x303]), (0xF6, #[0x6F, 0x308]), (0xF9, #[0x75, 0x300]),
    (0xFA, #[0x75, 0x301]), (0xFB, #[0x75, 0x302]), (0xFC, #[0x75, 0x308]), (0xFD, #[0x79, 0x301]),
    (0xFF, #[0x79, 0x308]), (0x100, #[0x41, 0x304]), (0x101, #[0x61, 0x304]),
    (0x102, #[0x41, 0x306]), (0x103, #[0x61, 0x306]), (0x104, #[0x41, 0x328]),
    (0x105, #[0x61, 0x328]), (0x106, #[0x43, 0x301]), (0x107, #[0x63, 0x301]),
    (0x108, #[0x43, 0x302]), (0x109, #[0x63, 0x302]), (0x10A, #[0x43, 0x307]),
    (0x10B, #[0x63, 0x307]), (0x10C, #[0x43, 0x30C]), (0x10D, #[0x63, 0x30C]),
    (0x10E, #[0x44, 0x30C]), (0x10F, #[0x64, 0x30C]), (0x112, #[0x45, 0x304]),
    (0x113, #[0x65, 0x304]), (0x114, #[0x45, 0x306]), (0x115, #[0x65, 0x306]),
    (0x116, #[0x45, 0x307]), (0x117, #[0x65, 0x307]), (0x118, #[0x45, 0x328]),
    (0x119, #[0x65, 0x328]), (0x11A, #[0x45, 0x30C]), (0x11B, #[0x65, 0x30C]),
    (0x11C, #[0x47, 0x302]), (0x11D, #[0x67, 0x302]), (0x11E, #[0x47, 0x306]),
    (0x11F, #[0x67, 0x306]), (0x120, #[0x47, 0x307]), (0x121, #[0x67, 0x307]),
    (0x122, #[0x47, 0x327]), (0x123, #[0x67, 0x327]), (0x124, #[0x48, 0x302]),
    (0x125, #[0x68, 0x302]), (0x128, #[0x49, 0x303]), (0x129, #[0x69, 0x303]),
    (0x12A, #[0x49, 0x304]), (0x12B, #[0x69, 0x304]), (0x12C, #[0x49, 0x306]),
    (0x12D, #[0x69, 0x306]), (0x12E, #[0x49, 0x328]), (0x12F, #[0x69, 0x328]),
    (0x130, #[0x49, 0x307]), (0x132, #[0x49, 0x4A]), (0x133, #[0x69, 0x6A]),
    (0x134, #[0x4A, 0x302]), (0x135, #[0x6A, 0x302]), (0x136, #[0x4B, 0x327]),
    (0x137, #[0x6B, 0x327]), (0x139, #[0x4C, 0x301]), (0x13A, #[0x6C, 0x301]),
    (0x13B, #[0x4C, 0x327]), (0x13C, #[0x6C, 0x327]), (0x13D, #[0x4C, 0x30C]),
    (0x13E, #[0x6C, 0x30C]), (0x13F, #[0x4C, 0xB7]), (0x140, #[0x6C, 0xB7]),
    (0x143, #[0x4E, 0x301]), (0x144, #[0x6E, 0x301]), (0x145, #[0x4E, 0x327]),
    (0x146, #[0x6E, 0x327]), (0x147, #[0x4E, 0x30C]), (0x148, #[0x6E, 0x30C]),
    (0x149, #[0x2BC, 0x6E]), (0x14C, #[0x4F, 0x304]), (0x14D, #[0x6F, 0x304]),
    (0x14E, #[0x4F, 0x306]), (0x14F, #[0x6F, 0x306]), (0x150, #[0x4F, 0x30B]),
    (0x151, #[0x6F, 0x30B]), (0x154, #[0x52, 0x301]), (0x155, #[0x72, 0x301]),
    (0x156, #[0x52, 0x327]), (0x157, #[0x72, 0x327]), (0x158, #[0x52, 0x30C]),
    (0x159, #[0x72, 0x30C]), (0x15A, #[0x53, 0x301]), (0x15B, #[0x73, 0x301]),
    (0x15C, #[0x53, 0x302]), (0x15D, #[0x73, 0x302]), (0x15E, #[0x53, 0x327]),
    (0x15F, #[0x73, 0x327]), (0x160, #[0x53, 0x30C]), (0x161, #[0x73, 0x30C]),
    (0x162, #[0x54, 0x327]), (0x163, #[0x74, 0x327]), (0x164, #[0x54, 0x30C]),
    (0x165, #[0x74, 0x30C]), (0x168, #[0x55, 0x303]), (0x169, #[0x75, 0x303]),
    (0x16A, #[0x55, 0x304]), (0x16B, #[0x75, 0x304]), (0x16C, #[0x55, 0x306]),
    (0x16D, #[0x75, 0x306]), (0x16E, #[0x55, 0x30A]), (0x16F, #[0x75, 0x30A]),
    (0x170, #[0x55, 0x30B]), (0x171, #[0x75, 0x30B]), (0x172, #[0x55, 0x328]),
    (0x173, #[0x75, 0x328]), (0x174, #[0x57, 0x302]), (0x175, #[0x77, 0x302]),
    (0x176, #[0x59, 0x302]), (0x177, #[0x79, 0x302]), (0x178, #[0x59, 0x308]),
    (0x179, #[0x5A, 0x301]), (0x17A, #[0x7A, 0x301]), (0x17B, #[0x5A, 0x307]),
    (0x17C, #[0x7A, 0x307]), (0x17D, #[0x5A, 0x30C]), (0x17E, #[0x7A, 0x30C]),
    (0x1A0, #[0x4F, 0x31B]), (0x1A1, #[0x6F, 0x31B]), (0x1AF, #[0x55, 0x31B]),
    (0x1B0, #[0x75, 0x31B]), (0x1C4, #[0x44, 0x5A, 0x30C]), (0x1C5, #[0x44, 0x7A, 0x30C]),
    (0x1C6, #[0x64, 0x7A, 0x30C]), (0x1C7, #[0x4C, 0x4A]), (0x1C8, #[0x4C, 0x6A]),
    (0x1C9, #[0x6C, 0x6A]), (0x1CA, #[0x4E, 0x4A]), (0x1CB, #[0x4E, 0x6A]), (0x1CC, #[0x6E, 0x6A]),
    (0x1CD, #[0x41, 0x30C]), (0x1CE, #[0x61, 0x30C]), (0x1CF, #[0x49, 0x30C]),
    (0x1D0, #[0x69, 0x30C]), (0x1D1, #[0x4F, 0x30C]), (0x1D2, #[0x6F, 0x30C]),
    (0x1D3, #[0x55, 0x30C]), (0x1D4, #[0x75, 0x30C]), (0x1D5, #[0x55, 0x308, 0x304]),
    (0x1D6, #[0x75, 0x308, 0x304]), (0x1D7, #[0x55, 0x308, 0x301]), (0x1D8, #[0x75, 0x308, 0x301]),
    (0x1D9, #[0x55, 0x308, 0x30C]), (0x1DA, #[0x75, 0x308, 0x30C]), (0x1DB, #[0x55, 0x308, 0x300]),
    (0x1DC, #[0x75, 0x308, 0x300]), (0x1DE, #[0x41, 0x308, 0x304]), (0x1DF, #[0x61, 0x308, 0x304]),
    (0x1E0, #[0x41, 0x307, 0x304]), (0x1E1, #[0x61, 0x307, 0x304]), (0x1E2, #[0xC6, 0x304]),
    (0x1E3, #[0xE6, 0x304]), (0x1E6, #[0x47, 0x30C]), (0x1E7, #[0x67, 0x30C]),
    (0x1E8, #[0x4B, 0x30C]), (0x1E9, #[0x6B, 0x30C]), (0x1EA, #[0x4F, 0x328]),
    (0x1EB, #[0x6F, 0x328]), (0x1EC, #[0x4F, 0x328, 0x304]), (0x1ED, #[0x6F, 0x328, 0x304]),
    (0x1EE, #[0x1B7, 0x30C]), (0x1EF, #[0x292, 0x30C]), (0x1F0, #[0x6A, 0x30C]),
    (0x1F1, #[0x44, 0x5A]), (0x1F2, #[0x44, 0x7A]), (0x1F3, #[0x64, 0x7A]), (0x1F4, #[0x47, 0x301]),
    (0x1F5, #[0x67, 0x301]), (0x1F8, #[0x4E, 0x300]), (0x1F9, #[0x6E, 0x300]),
    (0x1FA, #[0x41, 0x30A, 0x301]), (0x1FB, #[0x61, 0x30A, 0x301]), (0x1FC, #[0xC6, 0x301]),
    (0x1FD, #[0xE6, 0x301]), (0x1FE, #[0xD8, 0x301]), (0x1FF, #[0xF8, 0x301]),
    (0x200, #[0x41, 0x30F]), (0x201, #[0x61, 0x30F]), (0x202, #[0x41, 0x311]),
    (0x203, #[0x61, 0x311]), (0x204, #[0x45, 0x30F]), (0x205, #[0x65, 0x30F]),
    (0x206, #[0x45, 0x311]), (0x207, #[0x65, 0x311]), (0x208, #[0x49, 0x30F]),
    (0x209, #[0x69, 0x30F]), (0x20A, #[0x49, 0x311]), (0x20B, #[0x69, 0x311]),
    (0x20C, #[0x4F, 0x30F]), (0x20D, #[0x6F, 0x30F]), (0x20E, #[0x4F, 0x311]),
    (0x20F, #[0x6F, 0x311]), (0x210, #[0x52, 0x30F]), (0x211, #[0x72, 0x30F]),
    (0x212, #[0x52, 0x311]), (0x213, #[0x72, 0x311]), (0x214, #[0x55, 0x30F]),
    (0x215, #[0x75, 0x30F]), (0x216, #[0x55, 0x311]), (0x217, #[0x75, 0x311]),
    (0x218, #[0x53, 0x326]), (0x219, #[0x73, 0x326]), (0x21A, #[0x54, 0x326]),
    (0x21B, #[0x74, 0x326]), (0x21E, #[0x48, 0x30C]), (0x21F, #[0x68, 0x30C]),
    (0x226, #[0x41, 0x307]), (0x227, #[0x61, 0x307]), (0x228, #[0x45, 0x327]),
    (0x229, #[0x65, 0x327]), (0x22A, #[0x4F, 0x308, 0x304]), (0x22B, #[0x6F, 0x308, 0x304]),
    (0x22C, #[0x4F, 0x303, 0x304]), (0x22D, #[0x6F, 0x303, 0x304]), (0x22E, #[0x4F, 0x307]),
    (0x22F, #[0x6F, 0x307]), (0x230, #[0x4F, 0x307, 0x304]), (0x231, #[0x6F, 0x307, 0x304]),
    (0x232, #[0x59, 0x304]), (0x233, #[0x79, 0x304]), (0x344, #[0x308, 0x301]),
    (0x386, #[0x391, 0x301]), (0x388, #[0x395, 0x301]), (0x389, #[0x397, 0x301]),
    (0x38A, #[0x399, 0x301]), (0x38C, #[0x39F, 0x301]), (0x38E, #[0x3A5, 0x301]),
    (0x38F, #[0x3A9, 0x301]), (0x390, #[0x3B9, 0x308, 0x301]), (0x3AA, #[0x399, 0x308]),
    (0x3AB, #[0x3A5, 0x308]), (0x3AC, #[0x3B1, 0x301]), (0x3AD, #[0x3B5, 0x301]),
    (0x3AE, #[0x3B7, 0x301]), (0x3AF, #[0x3B9, 0x301]), (0x3B0, #[0x3C5, 0x308, 0x301]),
    (0x3CA, #[0x3B9, 0x308]), (0x3CB, #[0x3C5, 0x308]), (0x3CC, #[0x3BF, 0x301]),
    (0x3CD, #[0x3C5, 0x301]), (0x3CE, #[0x3C9, 0x301]), (0x3D3, #[0x3A5, 0x301]),
    (0x3D4, #[0x3A5, 0x308]), (0x400, #[0x415, 0x300]), (0x401, #[0x415, 0x308]),
    (0x403, #[0x413, 0x301]), (0x407, #[0x406, 0x308]), (0x40C, #[0x41A, 0x301]),
    (0x40D, #[0x418, 0x300]), (0x40E, #[0x423, 0x306]), (0x419, #[0x418, 0x306]),
    (0x439, #[0x438, 0x306]), (0x450, #[0x435, 0x300]), (0x451, #[0x435, 0x308]),
    (0x453, #[0x433, 0x301]), (0x457, #[0x456, 0x308]), (0x45C, #[0x43A, 0x301]),
    (0x45D, #[0x438, 0x300]), (0x45E, #[0x443, 0x306]), (0x476, #[0x474, 0x30F]),
    (0x477, #[0x475, 0x30F]), (0x4C1, #[0x416, 0x306]), (0x4C2, #[0x436, 0x306]),
    (0x4D0, #[0x410, 0x306]), (0x4D1, #[0x430, 0x306]), (0x4D2, #[0x410, 0x308]),
    (0x4D3, #[0x430, 0x308]), (0x4D6, #[0x415, 0x306]), (0x4D7, #[0x435, 0x306]),
    (0x4DA, #[0x4D8, 0x308]), (0x4DB, #[0x4D9, 0x308]), (0x4DC, #[0x416, 0x308]),
    (0x4DD, #[0x436, 0x308]), (0x4DE, #[0x417, 0x308]), (0x4DF, #[0x437, 0x308]),
    (0x4E2, #[0x418, 0x304]), (0x4E3, #[0x438, 0x304]), (0x4E4, #[0x418, 0x308]),
    (0x4E5, #[0x438, 0x308]), (0x4E6, #[0x41E, 0x308]), (0x4E7, #[0x43E, 0x308]),
    (0x4EA, #[0x4E8, 0x308]), (0x4EB, #[0x4E9, 0x308]), (0x4EC, #[0x42D, 0x308]),
    (0x4ED, #[0x44D, 0x308]), (0x4EE, #[0x423, 0x304]), (0x4EF, #[0x443, 0x304]),
    (0x4F0, #[0x423, 0x308]), (0x4F1, #[0x443, 0x308]), (0x4F2, #[0x423, 0x30B]),
    (0x4F3, #[0x443, 0x30B]), (0x4F4, #[0x427, 0x308]), (0x4F5, #[0x447, 0x308]),
    (0x4F8, #[0x42B, 0x308]), (0x4F9, #[0x44B, 0x308]), (0x587, #[0x565, 0x582]),
    (0x622, #[0x627, 0x653]), (0x623, #[0x627, 0x654]), (0x624, #[0x648, 0x654]),
    (0x625, #[0x627, 0x655]), (0x626, #[0x64A, 0x654]), (0x675, #[0x627, 0x674]),
    (0x676, #[0x648, 0x674]), (0x677, #[0x6C7, 0x674]), (0x678, #[0x64A, 0x674]),
    (0x6C0, #[0x6D5, 0x654]), (0x6C2, #[0x6C1, 0x654]), (0x6D3, #[0x6D2, 0x654]),
    (0x929, #[0x928, 0x93C]), (0x931, #[0x930, 0x93C]), (0x934, #[0x933, 0x93C]),
    (0x958, #[0x915, 0x93C]), (0x959, #[0x916, 0x93C]), (0x95A, #[0x917, 0x93C]),
    (0x95B, #[0x91C, 0x93C]), (0x95C, #[0x921, 0x93C]), (0x95D, #[0x922, 0x93C]),
    (0x95E, #[0x92B, 0x93C]), (0x95F, #[0x92F, 0x93C]), (0x9CB, #[0x9C7, 0x9BE]),
    (0x9CC, #[0x9C7, 0x9D7]), (0x9DC, #[0x9A1, 0x9BC]), (0x9DD, #[0x9A2, 0x9BC]),
    (0x9DF, #[0x9AF, 0x9BC]), (0xA33, #[0xA32, 0xA3C]), (0xA36, #[0xA38, 0xA3C]),
    (0xA59, #[0xA16, 0xA3C]), (0xA5A, #[0xA17, 0xA3C]), (0xA5B, #[0xA1C, 0xA3C]),
    (0xA5E, #[0xA2B, 0xA3C]), (0xB48, #[0xB47, 0xB56]), (0xB4B, #[0xB47, 0xB3E]),
    (0xB4C, #[0xB47, 0xB57]), (0xB5C, #[0xB21, 0xB3C]), (0xB5D, #[0xB22, 0xB3C]),
    (0xB94, #[0xB92, 0xBD7]), (0xBCA, #[0xBC6, 0xBBE]), (0xBCB, #[0xBC7, 0xBBE]),
    (0xBCC, #[0xBC6, 0xBD7]), (0xC48, #[0xC46, 0xC56]), (0xCC0, #[0xCBF, 0xCD5]),
    (0xCC7, #[0xCC6, 0xCD5]), (0xCC8, #[0xCC6, 0xCD6]), (0xCCA, #[0xCC6, 0xCC2]),
    (0xCCB, #[0xCC6, 0xCC2, 0xCD5]), (0xD4A, #[0xD46, 0xD3E]), (0xD4B, #[0xD47, 0xD3E]),
    (0xD4C, #[0xD46, 0xD57]), (0xDDA, #[0xDD9, 0xDCA]), (0xDDC, #[0xDD9, 0xDCF]),
    (0xDDD, #[0xDD9, 0xDCF, 0xDCA]), (0xDDE, #[0xDD9, 0xDDF]), (0xE33, #[0xE4D, 0xE32]),
    (0xEB3, #[0xECD, 0xEB2]), (0xEDC, #[0xEAB, 0xE99]), (0xEDD, #[0xEAB, 0xEA1]),
    (0xF43, #[0xF42, 0xFB7]), (0xF4D, #[0xF4C, 0xFB7]), (0xF52, #[0xF51, 0xFB7]),
    (0xF57, #[0xF56, 0xFB7]), (0xF5C, #[0xF5B, 0xFB7]), (0xF69, #[0xF40, 0xFB5]),
    (0xF73, #[0xF71, 0xF72]), (0xF75, #[0xF71, 0xF74]), (0xF76, #[0xFB2, 0xF80]),
    (0xF77, #[0xFB2, 0xF71, 0xF80]), (0xF78, #[0xFB3, 0xF80]), (0xF79, #[0xFB3, 0xF71, 0xF80]),
    (0xF81, #[0xF71, 0xF80]), (0xF93, #[0xF92, 0xFB7]), (0xF9D, #[0xF9C, 0xFB7]),
    (0xFA2, #[0xFA1, 0xFB7]), (0xFA7, #[0xFA6, 0xFB7]), (0xFAC, #[0xFAB, 0xFB7]),
    (0xFB9, #[0xF90, 0xFB5]), (0x1026, #[0x1025, 0x102E]), (0x1B06, #[0x1B05, 0x1B35]),
    (0x1B08, #[0x1B07, 0x1B35]), (0x1B0A, #[0x1B09, 0x1B35]), (0x1B0C, #[0x1B0B, 0x1B35]),
    (0x1B0E, #[0x1B0D, 0x1B35]), (0x1B12, #[0x1B11, 0x1B35]), (0x1B3B, #[0x1B3A, 0x1B35]),
    (0x1B3D, #[0x1B3C, 0x1B35]), (0x1B40, #[0x1B3E, 0x1B35]), (0x1B41, #[0x1B3F, 0x1B35]),
    (0x1B43, #[0x1B42, 0x1B35]), (0x1E00, #[0x41, 0x325]), (0x1E01, #[0x61, 0x325]),
    (0x1E02, #[0x42, 0x307]), (0x1E03, #[0x62, 0x307]), (0x1E04, #[0x42, 0x323]),
    (0x1E05, #[0x62, 0x323]), (0x1E06, #[0x42, 0x331]), (0x1E07, #[0x62, 0x331]),
    (0x1E08, #[0x43, 0x327, 0x301]), (0x1E09, #[0x63, 0x327, 0x301]), (0x1E0A, #[0x44, 0x307]),
    (0x1E0B, #[0x64, 0x307]), (0x1E0C, #[0x44, 0x323]), (0x1E0D, #[0x64, 0x323]),
    (0x1E0E, #[0x44, 0x331]), (0x1E0F, #[0x64, 0x331]), (0x1E10, #[0x44, 0x327]),
    (0x1E11, #[0x64, 0x327]), (0x1E12, #[0x44, 0x32D]), (0x1E13, #[0x64, 0x32D]),
    (0x1E14, #[0x45, 0x304, 0x300]), (0x1E15, #[0x65, 0x304, 0x300]),
    (0x1E16, #[0x45, 0x304, 0x301]), (0x1E17, #[0x65, 0x304, 0x301]), (0x1E18, #[0x45, 0x32D]),
    (0x1E19, #[0x65, 0x32D]), (0x1E1A, #[0x45, 0x330]), (0x1E1B, #[0x65, 0x330]),
    (0x1E1C, #[0x45, 0x327, 0x306]), (0x1E1D, #[0x65, 0x327, 0x306]), (0x1E1E, #[0x46, 0x307]),
    (0x1E1F, #[0x66, 0x307]), (0x1E20, #[0x47, 0x304]), (0x1E21, #[0x67, 0x304]),
    (0x1E22, #[0x48, 0x307]), (0x1E23, #[0x68, 0x307]), (0x1E24, #[0x48, 0x323]),
    (0x1E25, #[0x68, 0x323]), (0x1E26, #[0x48, 0x308]), (0x1E27, #[0x68, 0x308]),
    (0x1E28, #[0x48, 0x327]), (0x1E29, #[0x68, 0x327]), (0x1E2A, #[0x48, 0x32E]),
    (0x1E2B, #[0x68, 0x32E]), (0x1E2C, #[0x49, 0x330]), (0x1E2D, #[0x69, 0x330]),
    (0x1E2E, #[0x49, 0x308, 0x301]), (0x1E2F, #[0x69, 0x308, 0x301]), (0x1E30, #[0x4B, 0x301]),
    (0x1E31, #[0x6B, 0x301]), (0x1E32, #[0x4B, 0x323]), (0x1E33, #[0x6B, 0x323]),
    (0x1E34, #[0x4B, 0x331]), (0x1E35, #[0x6B, 0x331]), (0x1E36, #[0x4C, 0x323]),
    (0x1E37, #[0x6C, 0x323]), (0x1E38, #[0x4C, 0x323, 0x304]), (0x1E39, #[0x6C, 0x323, 0x304]),
    (0x1E3A, #[0x4C, 0x331]), (0x1E3B, #[0x6C, 0x331]), (0x1E3C, #[0x4C, 0x32D]),
    (0x1E3D, #[0x6C, 0x32D]), (0x1E3E, #[0x4D, 0x301]), (0x1E3F, #[0x6D, 0x301]),
    (0x1E40, #[0x4D, 0x307]), (0x1E41, #[0x6D, 0x307]), (0x1E42, #[0x4D, 0x323]),
    (0x1E43, #[0x6D, 0x323]), (0x1E44, #[0x4E, 0x307]), (0x1E45, #[0x6E, 0x307]),
    (0x1E46, #[0x4E, 0x323]), (0x1E47, #[0x6E, 0x323]), (0x1E48, #[0x4E, 0x331]),
    (0x1E49, #[0x6E, 0x331]), (0x1E4A, #[0x4E, 0x32D]), (0x1E4B, #[0x6E, 0x32D]),
    (0x1E4C, #[0x4F, 0x303, 0x301]), (0x1E4D, #[0x6F, 0x303, 0x301]),
    (0x1E4E, #[0x4F, 0x303, 0x308]), (0x1E4F, #[0x6F, 0x303, 0x308]),
    (0x1E50, #[0x4F, 0x304, 0x300]), (0x1E51, #[0x6F, 0x304, 0x300]),
    (0x1E52, #[0x4F, 0x304, 0x301]), (0x1E53, #[0x6F, 0x304, 0x301]), (0x1E54, #[0x50, 0x301]),
    (0x1E55, #[0x70, 0x301]), (0x1E56, #[0x50, 0x307]), (0x1E57, #[0x70, 0x307]),
    (0x1E58, #[0x52, 0x307]), (0x1E59, #[0x72, 0x307]), (0x1E5A, #[0x52, 0x323]),
    (0x1E5B, #[0x72, 0x323]), (0x1E5C, #[0x52, 0x323, 0x304]), (0x1E5D, #[0x72, 0x323, 0x304]),
    (0x1E5E, #[0x52, 0x331]), (0x1E5F, #[0x72, 0x331]), (0x1E60, #[0x53, 0x307]),
    (0x1E61, #[0x73, 0x307]), (0x1E62, #[0x53, 0x323]), (0x1E63, #[0x73, 0x323]),
    (0x1E64, #[0x53, 0x301, 0x307]), (0x1E65, #[0x73, 0x301, 0x307]),
    (0x1E66, #[0x53, 0x30C, 0x307]), (0x1E67, #[0x73, 0x30C, 0x307]),
    (0x1E68, #[0x53, 0x323, 0x307]), (0x1E69, #[0x73, 0x323, 0x307]), (0x1E6A, #[0x54, 0x307]),
    (0x1E6B, #[0x74, 0x307]), (0x1E6C, #[0x54, 0x323]), (0x1E6D, #[0x74, 0x323]),
    (0x1E6E, #[0x54, 0x331]), (0x1E6F, #[0x74, 0x331]), (0x1E70, #[0x54, 0x32D]),
    (0x1E71, #[0x74, 0x32D]), (0x1E72, #[0x55, 0x324]), (0x1E73, #[0x75, 0x324]),
    (0x1E74, #[0x55, 0x330]), (0x1E75, #[0x75, 0x330]), (0x1E76, #[0x55, 0x32D]),
    (0x1E77, #[0x75, 0x32D]), (0x1E78, #[0x55, 0x303, 0x301]), (0x1E79, #[0x75, 0x303, 0x301]),
    (0x1E7A, #[0x55, 0x304, 0x308]), (0x1E7B, #[0x75, 0x304, 0x308]), (0x1E7C, #[0x56, 0x303]),
    (0x1E7D, #[0x76, 0x303]), (0x1E7E, #[0x56, 0x323]), (0x1E7F, #[0x76, 0x323]),
    (0x1E80, #[0x57, 0x300]), (0x1E81, #[0x77, 0x300]), (0x1E82, #[0x57, 0x301]),
    (0x1E83, #[0x77, 0x301]), (0x1E84, #[0x57, 0x308]), (0x1E85, #[0x77, 0x308]),
    (0x1E86, #[0x57, 0x307]), (0x1E87, #[0x77, 0x307]), (0x1E88, #[0x57, 0x323]),
    (0x1E89, #[0x77, 0x323]), (0x1E8A, #[0x58, 0x307]), (0x1E8B, #[0x78, 0x307]),
    (0x1E8C, #[0x58, 0x308]), (0x1E8D, #[0x78, 0x308]), (0x1E8E, #[0x59, 0x307]),
    (0x1E8F, #[0x79, 0x307]), (0x1E90, #[0x5A, 0x302]), (0x1E91, #[0x7A, 0x302]),
    (0x1E92, #[0x5A, 0x323]), (0x1E93, #[0x7A, 0x323]), (0x1E94, #[0x5A, 0x331]),
    (0x1E95, #[0x7A, 0x331]), (0x1E96, #[0x68, 0x331]), (0x1E97, #[0x74, 0x308]),
    (0x1E98, #[0x77, 0x30A]), (0x1E99, #[0x79, 0x30A]), (0x1E9A, #[0x61, 0x2BE]),
    (0x1E9B, #[0x73, 0x307]), (0x1EA0, #[0x41, 0x323]), (0x1EA1, #[0x61, 0x323]),
    (0x1EA2, #[0x41, 0x309]), (0x1EA3, #[0x61, 0x309]), (0x1EA4, #[0x41, 0x302, 0x301]),
    (0x1EA5, #[0x61, 0x302, 0x301]), (0x1EA6, #[0x41, 0x302, 0x300]),
    (0x1EA7, #[0x61, 0x302, 0x300]), (0x1EA8, #[0x41, 0x302, 0x309]),
    (0x1EA9, #[0x61, 0x302, 0x309]), (0x1EAA, #[0x41, 0x302, 0x303]),
    (0x1EAB, #[0x61, 0x302, 0x303]), (0x1EAC, #[0x41, 0x323, 0x302]),
    (0x1EAD, #[0x61, 0x323, 0x302]), (0x1EAE, #[0x41, 0x306, 0x301]),
    (0x1EAF, #[0x61, 0x306, 0x301]), (0x1EB0, #[0x41, 0x306, 0x300]),
    (0x1EB1, #[0x61, 0x306, 0x300]), (0x1EB2, #[0x41, 0x306, 0x309]),
    (0x1EB3, #[0x61, 0x306, 0x309]), (0x1EB4, #[0x41, 0x306, 0x303]),
    (0x1EB5, #[0x61, 0x306, 0x303]), (0x1EB6, #[0x41, 0x323, 0x306]),
    (0x1EB7, #[0x61, 0x323, 0x306]), (0x1EB8, #[0x45, 0x323]), (0x1EB9, #[0x65, 0x323]),
    (0x1EBA, #[0x45, 0x309]), (0x1EBB, #[0x65, 0x309]), (0x1EBC, #[0x45, 0x303]),
    (0x1EBD, #[0x65, 0x303]), (0x1EBE, #[0x45, 0x302, 0x301]), (0x1EBF, #[0x65, 0x302, 0x301]),
    (0x1EC0, #[0x45, 0x302, 0x300]), (0x1EC1, #[0x65, 0x302, 0x300]),
    (0x1EC2, #[0x45, 0x302, 0x309]), (0x1EC3, #[0x65, 0x302, 0x309]),
    (0x1EC4, #[0x45, 0x302, 0x303]), (0x1EC5, #[0x65, 0x302, 0x303]),
    (0x1EC6, #[0x45, 0x323, 0x302]), (0x1EC7, #[0x65, 0x323, 0x302]), (0x1EC8, #[0x49, 0x309]),
    (0x1EC9, #[0x69, 0x309]), (0x1ECA, #[0x49, 0x323]), (0x1ECB, #[0x69, 0x323]),
    (0x1ECC, #[0x4F, 0x323]), (0x1ECD, #[0x6F, 0x323]), (0x1ECE, #[0x4F, 0x309]),
    (0x1ECF, #[0x6F, 0x309]), (0x1ED0, #[0x4F, 0x302, 0x301]), (0x1ED1, #[0x6F, 0x302, 0x301]),
    (0x1ED2, #[0x4F, 0x302, 0x300]), (0x1ED3, #[0x6F, 0x302, 0x300]),
    (0x1ED4, #[0x4F, 0x302, 0x309]), (0x1ED5, #[0x6F, 0x302, 0x309]),
    (0x1ED6, #[0x4F, 0x302, 0x303]), (0x1ED7, #[0x6F, 0x302, 0x303]),
    (0x1ED8, #[0x4F, 0x323, 0x302]), (0x1ED9, #[0x6F, 0x323, 0x302]),
    (0x1EDA, #[0x4F, 0x31B, 0x301]), (0x1EDB, #[0x6F, 0x31B, 0x301]),
    (0x1EDC, #[0x4F, 0x31B, 0x300]), (0x1EDD, #[0x6F, 0x31B, 0x300]),
    (0x1EDE, #[0x4F, 0x31B, 0x309]), (0x1EDF, #[0x6F, 0x31B, 0x309]),
    (0x1EE0, #[0x4F, 0x31B, 0x303]), (0x1EE1, #[0x6F, 0x31B, 0x303]),
    (0x1EE2, #[0x4F, 0x31B, 0x323]), (0x1EE3, #[0x6F, 0x31B, 0x323]), (0x1EE4, #[0x55, 0x323]),
    (0x1EE5, #[0x75, 0x323]), (0x1EE6, #[0x55, 0x309]), (0x1EE7, #[0x75, 0x309]),
    (0x1EE8, #[0x55, 0x31B, 0x301]), (0x1EE9, #[0x75, 0x31B, 0x301]),
    (0x1EEA, #[0x55, 0x31B, 0x300]), (0x1EEB, #[0x75, 0x31B, 0x300]),
    (0x1EEC, #[0x55, 0x31B, 0x309]), (0x1EED, #[0x75, 0x31B, 0x309]),
    (0x1EEE, #[0x55, 0x31B, 0x303]), (0x1EEF, #[0x75, 0x31B, 0x303]),
    (0x1EF0, #[0x55, 0x31B, 0x323]), (0x1EF1, #[0x75, 0x31B, 0x323]), (0x1EF2, #[0x59, 0x300]),
    (0x1EF3, #[0x79, 0x300]), (0x1EF4, #[0x59, 0x323]), (0x1EF5, #[0x79, 0x323]),
    (0x1EF6, #[0x59, 0x309]), (0x1EF7, #[0x79, 0x309]), (0x1EF8, #[0x59, 0x303]),
    (0x1EF9, #[0x79, 0x303]), (0x1F00, #[0x3B1, 0x313]), (0x1F01, #[0x3B1, 0x314]),
    (0x1F02, #[0x3B1, 0x313, 0x300]), (0x1F03, #[0x3B1, 0x314, 0x300]),
    (0x1F04, #[0x3B1, 0x313, 0x301]), (0x1F05, #[0x3B1, 0x314, 0x301]),
    (0x1F06, #[0x3B1, 0x313, 0x342]), (0x1F07, #[0x3B1, 0x314, 0x342]), (0x1F08, #[0x391, 0x313]),
    (0x1F09, #[0x391, 0x314]), (0x1F0A, #[0x391, 0x313, 0x300]), (0x1F0B, #[0x391, 0x314, 0x300]),
    (0x1F0C, #[0x391, 0x313, 0x301]), (0x1F0D, #[0x391, 0x314, 0x301]),
    (0x1F0E, #[0x391, 0x313, 0x342]), (0x1F0F, #[0x391, 0x314, 0x342]), (0x1F10, #[0x3B5, 0x313]),
    (0x1F11, #[0x3B5, 0x314]), (0x1F12, #[0x3B5, 0x313, 0x300]), (0x1F13, #[0x3B5, 0x314, 0x300]),
    (0x1F14, #[0x3B5, 0x313, 0x301]), (0x1F15, #[0x3B5, 0x314, 0x301]), (0x1F18, #[0x395, 0x313]),
    (0x1F19, #[0x395, 0x314]), (0x1F1A, #[0x395, 0x313, 0x300]), (0x1F1B, #[0x395, 0x314, 0x300]),
    (0x1F1C, #[0x395, 0x313, 0x301]), (0x1F1D, #[0x395, 0x314, 0x301]), (0x1F20, #[0x3B7, 0x313]),
    (0x1F21, #[0x3B7, 0x314]), (0x1F22, #[0x3B7, 0x313, 0x300]), (0x1F23, #[0x3B7, 0x314, 0x300]),
    (0x1F24, #[0x3B7, 0x313, 0x301]), (0x1F25, #[0x3B7, 0x314, 0x301]),
    (0x1F26, #[0x3B7, 0x313, 0x342]), (0x1F27, #[0x3B7, 0x314, 0x342]), (0x1F28, #[0x397, 0x313]),
    (0x1F29, #[0x397, 0x314]), (0x1F2A, #[0x397, 0x313, 0x300]), (0x1F2B, #[0x397, 0x314, 0x300]),
    (0x1F2C, #[0x397, 0x313, 0x301]), (0x1F2D, #[0x397, 0x314, 0x301]),
    (0x1F2E, #[0x397, 0x313, 0x342]), (0x1F2F, #[0x397, 0x314, 0x342]), (0x1F30, #[0x3B9, 0x313]),
    (0x1F31, #[0x3B9, 0x314]), (0x1F32, #[0x3B9, 0x313, 0x300]), (0x1F33, #[0x3B9, 0x314, 0x300]),
    (0x1F34, #[0x3B9, 0x313, 0x301]), (0x1F35, #[0x3B9, 0x314, 0x301]),
    (0x1F36, #[0x3B9, 0x313, 0x342]), (0x1F37, #[0x3B9, 0x314, 0x342]), (0x1F38, #[0x399, 0x313]),
    (0x1F39, #[0x399, 0x314]), (0x1F3A, #[0x399, 0x313, 0x300]), (0x1F3B, #[0x399, 0x314, 0x300]),
    (0x1F3C, #[0x399, 0x313, 0x301]), (0x1F3D, #[0x399, 0x314, 0x301]),
    (0x1F3E, #[0x399, 0x313, 0x342]), (0x1F3F, #[0x399, 0x314, 0x342]), (0x1F40, #[0x3BF, 0x313]),
    (0x1F41, #[0x3BF, 0x314]), (0x1F42, #[0x3BF, 0x313, 0x300]), (0x1F43, #[0x3BF, 0x314, 0x300]),
    (0x1F44, #[0x3BF, 0x313, 0x301]), (0x1F45, #[0x3BF, 0x314, 0x301]), (0x1F48, #[0x39F, 0x313]),
    (0x1F49, #[0x39F, 0x314]), (0x1F4A, #[0x39F, 0x313, 0x300]), (0x1F4B, #[0x39F, 0x314, 0x300]),
    (0x1F4C, #[0x39F, 0x313, 0x301]), (0x1F4D, #[0x39F, 0x314, 0x301]), (0x1F50, #[0x3C5, 0x313]),
    (0x1F51, #[0x3C5, 0x314]), (0x1F52, #[0x3C5, 0x313, 0x300]), (0x1F53, #[0x3C5, 0x314, 0x300]),
    (0x1F54, #[0x3C5, 0x313, 0x301]), (0x1F55, #[0x3C5, 0x314, 0x301]),
    (0x1F56, #[0x3C5, 0x313, 0x342]), (0x1F57, #[0x3C5, 0x314, 0x342]), (0x1F59, #[0x3A5, 0x314]),
    (0x1F5B, #[0x3A5, 0x314, 0x300]), (0x1F5D, #[0x3A5, 0x314, 0x301]),
    (0x1F5F, #[0x3A5, 0x314, 0x342]), (0x1F60, #[0x3C9, 0x313]), (0x1F61, #[0x3C9, 0x314]),
    (0x1F62, #[0x3C9, 0x313, 0x300]), (0x1F63, #[0x3C9, 0x314, 0x300]),
    (0x1F64, #[0x3C9, 0x313, 0x301]), (0x1F65, #[0x3C9, 0x314, 0x301]),
    (0x1F66, #[0x3C9, 0x313, 0x342]), (0x1F67, #[0x3C9, 0x314, 0x342]), (0x1F68, #[0x3A9, 0x313]),
    (0x1F69, #[0x3A9, 0x314]), (0x1F6A, #[0x3A9, 0x313, 0x300]), (0x1F6B, #[0x3A9, 0x314, 0x300]),
    (0x1F6C, #[0x3A9, 0x313, 0x301]), (0x1F6D, #[0x3A9, 0x314, 0x301]),
    (0x1F6E, #[0x3A9, 0x313, 0x342]), (0x1F6F, #[0x3A9, 0x314, 0x342]), (0x1F70, #[0x3B1, 0x300]),
    (0x1F71, #[0x3B1, 0x301]), (0x1F72, #[0x3B5, 0x300]), (0x1F73, #[0x3B5, 0x301]),
    (0x1F74, #[0x3B7, 0x300]), (0x1F75, #[0x3B7, 0x301]), (0x1F76, #[0x3B9, 0x300]),
    (0x1F77, #[0x3B9, 0x301]), (0x1F78, #[0x3BF, 0x300]), (0x1F79, #[0x3BF, 0x301]),
    (0x1F7A, #[0x3C5, 0x300]), (0x1F7B, #[0x3C5, 0x301]), (0x1F7C, #[0x3C9, 0x300]),
    (0x1F7D, #[0x3C9, 0x301]), (0x1F80, #[0x3B1, 0x313, 0x345]), (0x1F81, #[0x3B1, 0x314, 0x345]),
    (0x1F82, #[0x3B1, 0x313, 0x300, 0x345]), (0x1F83, #[0x3B1, 0x314, 0x300, 0x345]),
    (0x1F84, #[0x3B1, 0x313, 0x301, 0x345]), (0x1F85, #[0x3B1, 0x314, 0x301, 0x345]),
    (0x1F86, #[0x3B1, 0x313, 0x342, 0x345]), (0x1F87, #[0x3B1, 0x314, 0x342, 0x345]),
    (0x1F88, #[0x391, 0x313, 0x345]), (0x1F89, #[0x391, 0x314, 0x345]),
    (0x1F8A, #[0x391, 0x313, 0x300, 0x345]), (0x1F8B, #[0x391, 0x314, 0x300, 0x345]),
    (0x1F8C, #[0x391, 0x313, 0x301, 0x345]), (0x1F8D, #[0x391, 0x314, 0x301, 0x345]),
    (0x1F8E, #[0x391, 0x313, 0x342, 0x345]), (0x1F8F, #[0x391, 0x314, 0x342, 0x345]),
    (0x1F90, #[0x3B7, 0x313, 0x345]), (0x1F91, #[0x3B7, 0x314, 0x345]),
    (0x1F92, #[0x3B7, 0x313, 0x300, 0x345]), (0x1F93, #[0x3B7, 0x314, 0x300, 0x345]),
    (0x1F94, #[0x3B7, 0x313, 0x301, 0x345]), (0x1F95, #[0x3B7, 0x314, 0x301, 0x345]),
    (0x1F96, #[0x3B7, 0x313, 0x342, 0x345]), (0x1F97, #[0x3B7, 0x314, 0x342, 0x345]),
    (0x1F98, #[0x397, 0x313, 0x345]), (0x1F99, #[0x397, 0x314, 0x345]),
    (0x1F9A, #[0x397, 0x313, 0x300, 0x345]), (0x1F9B, #[0x397, 0x314, 0x300, 0x345]),
    (0x1F9C, #[0x397, 0x313, 0x301, 0x345]), (0x1F9D, #[0x397, 0x314, 0x301, 0x345]),
    (0x1F9E, #[0x397, 0x313, 0x342, 0x345]), (0x1F9F, #[0x397, 0x314, 0x342, 0x345]),
    (0x1FA0, #[0x3C9, 0x313, 0x345]), (0x1FA1, #[0x3C9, 0x314, 0x345]),
    (0x1FA2, #[0x3C9, 0x313, 0x300, 0x345]), (0x1FA3, #[0x3C9, 0x314, 0x300, 0x345]),
    (0x1FA4, #[0x3C9, 0x313, 0x301, 0x345]), (0x1FA5, #[0x3C9, 0x314, 0x301, 0x345]),
    (0x1FA6, #[0x3C9, 0x313, 0x342, 0x345]), (0x1FA7, #[0x3C9, 0x314, 0x342, 0x345]),
    (0x1FA8, #[0x3A9, 0x313, 0x345]), (0x1FA9, #[0x3A9, 0x314, 0x345]),
    (0x1FAA, #[0x3A9, 0x313, 0x300, 0x345]), (0x1FAB, #[0x3A9, 0x314, 0x300, 0x345]),
    (0x1FAC, #[0x3A9, 0x313, 0x301, 0x345]), (0x1FAD, #[0x3A9, 0x314, 0x301, 0x345]),
    (0x1FAE, #[0x3A9, 0x313, 0x342, 0x345]), (0x1FAF, #[0x3A9, 0x314, 0x342, 0x345]),
    (0x1FB0, #[0x3B1, 0x306]), (0x1FB1, #[0x3B1, 0x304]), (0x1FB2, #[0x3B1, 0x300, 0x345]),
    (0x1FB3, #[0x3B1, 0x345]), (0x1FB4, #[0x3B1, 0x301, 0x345]), (0x1FB6, #[0x3B1, 0x342]),
    (0x1FB7, #[0x3B1, 0x342, 0x345]), (0x1FB8, #[0x391, 0x306]), (0x1FB9, #[0x391, 0x304]),
    (0x1FBA, #[0x391, 0x300]), (0x1FBB, #[0x391, 0x301]), (0x1FBC, #[0x391, 0x345]),
    (0x1FC2, #[0x3B7, 0x300, 0x345]), (0x1FC3, #[0x3B7, 0x345]), (0x1FC4, #[0x3B7, 0x301, 0x345]),
    (0x1FC6, #[0x3B7, 0x342]), (0x1FC7, #[0x3B7, 0x342, 0x345]), (0x1FC8, #[0x395, 0x300]),
    (0x1FC9, #[0x395, 0x301]), (0x1FCA, #[0x397, 0x300]), (0x1FCB, #[0x397, 0x301]),
    (0x1FCC, #[0x397, 0x345]), (0x1FD0, #[0x3B9, 0x306]), (0x1FD1, #[0x3B9, 0x304]),
    (0x1FD2, #[0x3B9, 0x308, 0x300]), (0x1FD3, #[0x3B9, 0x308, 0x301]), (0x1FD6, #[0x3B9, 0x342]),
    (0x1FD7, #[0x3B9, 0x308, 0x342]), (0x1FD8, #[0x399, 0x306]), (0x1FD9, #[0x399, 0x304]),
    (0x1FDA, #[0x399, 0x300]), (0x1FDB, #[0x399, 0x301]), (0x1FE0, #[0x3C5, 0x306]),
    (0x1FE1, #[0x3C5, 0x304]), (0x1FE2, #[0x3C5, 0x308, 0x300]), (0x1FE3, #[0x3C5, 0x308, 0x301]),
    (0x1FE4, #[0x3C1, 0x313]), (0x1FE5, #[0x3C1, 0x314]), (0x1FE6, #[0x3C5, 0x342]),
    (0x1FE7, #[0x3C5, 0x308, 0x342]), (0x1FE8, #[0x3A5, 0x306]), (0x1FE9, #[0x3A5, 0x304]),
    (0x1FEA, #[0x3A5, 0x300]), (0x1FEB, #[0x3A5, 0x301]), (0x1FEC, #[0x3A1, 0x314]),
    (0x1FF2, #[0x3C9, 0x300, 0x345]), (0x1FF3, #[0x3C9, 0x345]), (0x1FF4, #[0x3C9, 0x301, 0x345]),
    (0x1FF6, #[0x3C9, 0x342]), (0x1FF7, #[0x3C9, 0x342, 0x345]), (0x1FF8, #[0x39F, 0x300]),
    (0x1FF9, #[0x39F, 0x301]), (0x1FFA, #[0x3A9, 0x300]), (0x1FFB, #[0x3A9, 0x301]),
    (0x1FFC, #[0x3A9, 0x345]), (0x212B, #[0x41, 0x30A]), (0x2161, #[0x49, 0x49]),
    (0x2162, #[0x49, 0x49, 0x49]), (0x2163, #[0x49, 0x56]), (0x2165, #[0x56, 0x49]),
    (0x2166, #[0x56, 0x49, 0x49]), (0x2167, #[0x56, 0x49, 0x49, 0x49]), (0x2168, #[0x49, 0x58]),
    (0x216A, #[0x58, 0x49]), (0x216B, #[0x58, 0x49, 0x49]), (0x2171, #[0x69, 0x69]),
    (0x2172, #[0x69, 0x69, 0x69]), (0x2173, #[0x69, 0x76]), (0x2175, #[0x76, 0x69]),
    (0x2176, #[0x76, 0x69, 0x69]), (0x2177, #[0x76, 0x69, 0x69, 0x69]), (0x2178, #[0x69, 0x78]),
    (0x217A, #[0x78, 0x69]), (0x217B, #[0x78, 0x69, 0x69]), (0x304C, #[0x304B, 0x3099]),
    (0x304E, #[0x304D, 0x3099]), (0x3050, #[0x304F, 0x3099]), (0x3052, #[0x3051, 0x3099]),
    (0x3054, #[0x3053, 0x3099]), (0x3056, #[0x3055, 0x3099]), (0x3058, #[0x3057, 0x3099]),
    (0x305A, #[0x3059, 0x3099]), (0x305C, #[0x305B, 0x3099]), (0x305E, #[0x305D, 0x3099]),
    (0x3060, #[0x305F, 0x3099]), (0x3062, #[0x3061, 0x3099]), (0x3065, #[0x3064, 0x3099]),
    (0x3067, #[0x3066, 0x3099]), (0x3069, #[0x3068, 0x3099]), (0x3070, #[0x306F, 0x3099]),
    (0x3071, #[0x306F, 0x309A]), (0x3073, #[0x3072, 0x3099]), (0x3074, #[0x3072, 0x309A]),
    (0x3076, #[0x3075, 0x3099]), (0x3077, #[0x3075, 0x309A]), (0x3079, #[0x3078, 0x3099]),
    (0x307A, #[0x3078, 0x309A]), (0x307C, #[0x307B, 0x3099]), (0x307D, #[0x307B, 0x309A]),
    (0x3094, #[0x3046, 0x3099]), (0x309E, #[0x309D, 0x3099]), (0x309F, #[0x3088, 0x308A]),
    (0x30AC, #[0x30AB, 0x3099]), (0x30AE, #[0x30AD, 0x3099]), (0x30B0, #[0x30AF, 0x3099]),
    (0x30B2, #[0x30B1, 0x3099]), (0x30B4, #[0x30B3, 0x3099]), (0x30B6, #[0x30B5, 0x3099]),
    (0x30B8, #[0x30B7, 0x3099]), (0x30BA, #[0x30B9, 0x3099]), (0x30BC, #[0x30BB, 0x3099]),
    (0x30BE, #[0x30BD, 0x3099]), (0x30C0, #[0x30BF, 0x3099]), (0x30C2, #[0x30C1, 0x3099]),
    (0x30C5, #[0x30C4, 0x3099]), (0x30C7, #[0x30C6, 0x3099]), (0x30C9, #[0x30C8, 0x3099]),
    (0x30D0, #[0x30CF, 0x3099]), (0x30D1, #[0x30CF, 0x309A]), (0x30D3, #[0x30D2, 0x3099]),
    (0x30D4, #[0x30D2, 0x309A]), (0x30D6, #[0x30D5, 0x3099]), (0x30D7, #[0x30D5, 0x309A]),
    (0x30D9, #[0x30D8, 0x3099]), (0x30DA, #[0x30D8, 0x309A]), (0x30DC, #[0x30DB, 0x3099]),
    (0x30DD, #[0x30DB, 0x309A]), (0x30F4, #[0x30A6, 0x3099]), (0x30F7, #[0x30EF, 0x3099]),
    (0x30F8, #[0x30F0, 0x3099]), (0x30F9, #[0x30F1, 0x3099]), (0x30FA, #[0x30F2, 0x3099]),
    (0x30FE, #[0x30FD, 0x3099]), (0x30FF, #[0x30B3, 0x30C8]), (0xFB00, #[0x66, 0x66]),
    (0xFB01, #[0x66, 0x69]), (0xFB02, #[0x66, 0x6C]), (0xFB03, #[0x66, 0x66, 0x69]),
    (0xFB04, #[0x66, 0x66, 0x6C]), (0xFB05, #[0x73, 0x74]), (0xFB06, #[0x73, 0x74]),
    (0xFB13, #[0x574, 0x576]), (0xFB14, #[0x574, 0x565]), (0xFB15, #[0x574, 0x56B]),
    (0xFB16, #[0x57E, 0x576]), (0xFB17, #[0x574, 0x56D]), (0xFB1D, #[0x5D9, 0x5B4]),
    (0xFB1F, #[0x5F2, 0x5B7]), (0xFB2A, #[0x5E9, 0x5C1]), (0xFB2B, #[0x5E9, 0x5C2]),
    (0xFB2C, #[0x5E9, 0x5BC, 0x5C1]), (0xFB2D, #[0x5E9, 0x5BC, 0x5C2]), (0xFB2E, #[0x5D0, 0x5B7]),
    (0xFB2F, #[0x5D0, 0x5B8]), (0xFB30, #[0x5D0, 0x5BC]), (0xFB31, #[0x5D1, 0x5BC]),
    (0xFB32, #[0x5D2, 0x5BC]), (0xFB33, #[0x5D3, 0x5BC]), (0xFB34, #[0x5D4, 0x5BC]),
    (0xFB35, #[0x5D5, 0x5BC]), (0xFB36, #[0x5D6, 0x5BC]), (0xFB38, #[0x5D8, 0x5BC]),
    (0xFB39, #[0x5D9, 0x5BC]), (0xFB3A, #[0x5DA, 0x5BC]), (0xFB3B, #[0x5DB, 0x5BC]),
    (0xFB3C, #[0x5DC, 0x5BC]), (0xFB3E, #[0x5DE, 0x5BC]), (0xFB40, #[0x5E0, 0x5BC]),
    (0xFB41, #[0x5E1, 0x5BC]), (0xFB43, #[0x5E3, 0x5BC]), (0xFB44, #[0x5E4, 0x5BC]),
    (0xFB46, #[0x5E6, 0x5BC]), (0xFB47, #[0x5E7, 0x5BC]), (0xFB48, #[0x5E8, 0x5BC]),
    (0xFB49, #[0x5E9, 0x5BC]), (0xFB4A, #[0x5EA, 0x5BC]), (0xFB4B, #[0x5D5, 0x5B9]),
    (0xFB4C, #[0x5D1, 0x5BF]), (0xFB4D, #[0x5DB, 0x5BF]), (0xFB4E, #[0x5E4, 0x5BF]),
    (0xFB4F, #[0x5D0, 0x5DC]), (0xFBA4, #[0x6D5, 0x654]), (0xFBA5, #[0x6D5, 0x654]),
    (0xFBB0, #[0x6D2, 0x654]), (0xFBB1, #[0x6D2, 0x654]), (0xFBDD, #[0x6C7, 0x674]),
    (0xFBEA, #[0x64A, 0x654, 0x627]), (0xFBEB, #[0x64A, 0x654, 0x627]),
    (0xFBEC, #[0x64A, 0x654, 0x6D5]), (0xFBED, #[0x64A, 0x654, 0x6D5]),
    (0xFBEE, #[0x64A, 0x654, 0x648]), (0xFBEF, #[0x64A, 0x654, 0x648]),
    (0xFBF0, #[0x64A, 0x654, 0x6C7]), (0xFBF1, #[0x64A, 0x654, 0x6C7]),
    (0xFBF2, #[0x64A, 0x654, 0x6C6]), (0xFBF3, #[0x64A, 0x654, 0x6C6]),
    (0xFBF4, #[0x64A, 0x654, 0x6C8]), (0xFBF5, #[0x64A, 0x654, 0x6C8]),
    (0xFBF6, #[0x64A, 0x654, 0x6D0]), (0xFBF7, #[0x64A, 0x654, 0x6D0]),
    (0xFBF8, #[0x64A, 0x654, 0x6D0]), (0xFBF9, #[0x64A, 0x654, 0x649]),
    (0xFBFA, #[0x64A, 0x654, 0x649]), (0xFBFB, #[0x64A, 0x654, 0x649]),
    (0xFC00, #[0x64A, 0x654, 0x62C]), (0xFC01, #[0x64A, 0x654, 0x62D]),
    (0xFC02, #[0x64A, 0x654, 0x645]), (0xFC03, #[0x64A, 0x654, 0x649]),
    (0xFC04, #[0x64A, 0x654, 0x64A]), (0xFC05, #[0x628, 0x62C]), (0xFC06, #[0x628, 0x62D]),
    (0xFC07, #[0x628, 0x62E]), (0xFC08, #[0x628, 0x645]), (0xFC09, #[0x628, 0x649]),
    (0xFC0A, #[0x628, 0x64A]), (0xFC0B, #[0x62A, 0x62C]), (0xFC0C, #[0x62A, 0x62D]),
    (0xFC0D, #[0x62A, 0x62E]), (0xFC0E, #[0x62A, 0x645]), (0xFC0F, #[0x62A, 0x649]),
    (0xFC10, #[0x62A, 0x64A]), (0xFC11, #[0x62B, 0x62C]), (0xFC12, #[0x62B, 0x645]),
    (0xFC13, #[0x62B, 0x649]), (0xFC14, #[0x62B, 0x64A]), (0xFC15, #[0x62C, 0x62D]),
    (0xFC16, #[0x62C, 0x645]), (0xFC17, #[0x62D, 0x62C]), (0xFC18, #[0x62D, 0x645]),
    (0xFC19, #[0x62E, 0x62C]), (0xFC1A, #[0x62E, 0x62D]), (0xFC1B, #[0x62E, 0x645]),
    (0xFC1C, #[0x633, 0x62C]), (0xFC1D, #[0x633, 0x62D]), (0xFC1E, #[0x633, 0x62E]),
    (0xFC1F, #[0x633, 0x645]), (0xFC20, #[0x635, 0x62D]), (0xFC21, #[0x635, 0x645]),
    (0xFC22, #[0x636, 0x62C]), (0xFC23, #[0x636, 0x62D]), (0xFC24, #[0x636, 0x62E]),
    (0xFC25, #[0x636, 0x645]), (0xFC26, #[0x637, 0x62D]), (0xFC27, #[0x637, 0x645]),
    (0xFC28, #[0x638, 0x645]), (0xFC29, #[0x639, 0x62C]), (0xFC2A, #[0x639, 0x645]),
    (0xFC2B, #[0x63A, 0x62C]), (0xFC2C, #[0x63A, 0x645]), (0xFC2D, #[0x641, 0x62C]),
    (0xFC2E, #[0x641, 0x62D]), (0xFC2F, #[0x641, 0x62E]), (0xFC30, #[0x641, 0x645]),
    (0xFC31, #[0x641, 0x649]), (0xFC32, #[0x641, 0x64A]), (0xFC33, #[0x642, 0x62D]),
    (0xFC34, #[0x642, 0x645]), (0xFC35, #[0x642, 0x649]), (0xFC36, #[0x642, 0x64A]),
    (0xFC37, #[0x643, 0x627]), (0xFC38, #[0x643, 0x62C]), (0xFC39, #[0x643, 0x62D]),
    (0xFC3A, #[0x643, 0x62E]), (0xFC3B, #[0x643, 0x644]), (0xFC3C, #[0x643, 0x645]),
    (0xFC3D, #[0x643, 0x649]), (0xFC3E, #[0x643, 0x64A]), (0xFC3F, #[0x644, 0x62C]),
    (0xFC40, #[0x644, 0x62D]), (0xFC41, #[0x644, 0x62E]), (0xFC42, #[0x644, 0x645]),
    (0xFC43, #[0x644, 0x649]), (0xFC44, #[0x644, 0x64A]), (0xFC45, #[0x645, 0x62C]),
    (0xFC46, #[0x645, 0x62D]), (0xFC47, #[0x645, 0x62E]), (0xFC48, #[0x645, 0x645]),
    (0xFC49, #[0x645, 0x649]), (0xFC4A, #[0x645, 0x64A]), (0xFC4B, #[0x646, 0x62C]),
    (0xFC4C, #[0x646, 0x62D]), (0xFC4D, #[0x646, 0x62E]), (0xFC4E, #[0x646, 0x645]),
    (0xFC4F, #[0x646, 0x649]), (0xFC50, #[0x646, 0x64A]), (0xFC51, #[0x647, 0x62C]),
    (0xFC52, #[0x647, 0x645]), (0xFC53, #[0x647, 0x649]), (0xFC54, #[0x647, 0x64A]),
    (0xFC55, #[0x64A, 0x62C]), (0xFC56, #[0x64A, 0x62D]), (0xFC57, #[0x64A, 0x62E]),
    (0xFC58, #[0x64A, 0x645]), (0xFC59, #[0x64A, 0x649]), (0xFC5A, #[0x64A, 0x64A]),
    (0xFC5B, #[0x630, 0x670]), (0xFC5C, #[0x631, 0x670]), (0xFC5D, #[0x649, 0x670]),
    (0xFC64, #[0x64A, 0x654, 0x631]), (0xFC65, #[0x64A, 0x654, 0x632]),
    (0xFC66, #[0x64A, 0x654, 0x645]), (0xFC67, #[0x64A, 0x654, 0x646]),
    (0xFC68, #[0x64A, 0x654, 0x649]), (0xFC69, #[0x64A, 0x654, 0x64A]), (0xFC6A, #[0x628, 0x631]),
    (0xFC6B, #[0x628, 0x632]), (0xFC6C, #[0x628, 0x645]), (0xFC6D, #[0x628, 0x646]),
    (0xFC6E, #[0x628, 0x649]), (0xFC6F, #[0x628, 0x64A]), (0xFC70, #[0x62A, 0x631]),
    (0xFC71, #[0x62A, 0x632]), (0xFC72, #[0x62A, 0x645]), (0xFC73, #[0x62A, 0x646]),
    (0xFC74, #[0x62A, 0x649]), (0xFC75, #[0x62A, 0x64A]), (0xFC76, #[0x62B, 0x631]),
    (0xFC77, #[0x62B, 0x632]), (0xFC78, #[0x62B, 0x645]), (0xFC79, #[0x62B, 0x646]),
    (0xFC7A, #[0x62B, 0x649]), (0xFC7B, #[0x62B, 0x64A]), (0xFC7C, #[0x641, 0x649]),
    (0xFC7D, #[0x641, 0x64A]), (0xFC7E, #[0x642, 0x649]), (0xFC7F, #[0x642, 0x64A]),
    (0xFC80, #[0x643, 0x627]), (0xFC81, #[0x643, 0x644]), (0xFC82, #[0x643, 0x645]),
    (0xFC83, #[0x643, 0x649]), (0xFC84, #[0x643, 0x64A]), (0xFC85, #[0x644, 0x645]),
    (0xFC86, #[0x644, 0x649]), (0xFC87, #[0x644, 0x64A]), (0xFC88, #[0x645, 0x627]),
    (0xFC89, #[0x645, 0x645]), (0xFC8A, #[0x646, 0x631]), (0xFC8B, #[0x646, 0x632]),
    (0xFC8C, #[0x646, 0x645]), (0xFC8D, #[0x646, 0x646]), (0xFC8E, #[0x646, 0x649]),
    (0xFC8F, #[0x646, 0x64A]), (0xFC90, #[0x649, 0x670]), (0xFC91, #[0x64A, 0x631]),
    (0xFC92, #[0x64A, 0x632]), (0xFC93, #[0x64A, 0x645]), (0xFC94, #[0x64A, 0x646]),
    (0xFC95, #[0x64A, 0x649]), (0xFC96, #[0x64A, 0x64A]), (0xFC97, #[0x64A, 0x654, 0x62C]),
    (0xFC98, #[0x64A, 0x654, 0x62D]), (0xFC99, #[0x64A, 0x654, 0x62E]),
    (0xFC9A, #[0x64A, 0x654, 0x645]), (0xFC9B, #[0x64A, 0x654, 0x647]), (0xFC9C, #[0x628, 0x62C]),
    (0xFC9D, #[0x628, 0x62D]), (0xFC9E, #[0x628, 0x62E]), (0xFC9F, #[0x628, 0x645]),
    (0xFCA0, #[0x628, 0x647]), (0xFCA1, #[0x62A, 0x62C]), (0xFCA2, #[0x62A, 0x62D]),
    (0xFCA3, #[0x62A, 0x62E]), (0xFCA4, #[0x62A, 0x645]), (0xFCA5, #[0x62A, 0x647]),
    (0xFCA6, #[0x62B, 0x645]), (0xFCA7, #[0x62C, 0x62D]), (0xFCA8, #[0x62C, 0x645]),
    (0xFCA9, #[0x62D, 0x62C]), (0xFCAA, #[0x62D, 0x645]), (0xFCAB, #[0x62E, 0x62C]),
    (0xFCAC, #[0x62E, 0x645]), (0xFCAD, #[0x633, 0x62C]), (0xFCAE, #[0x633, 0x62D]),
    (0xFCAF, #[0x633, 0x62E]), (0xFCB0, #[0x633, 0x645]), (0xFCB1, #[0x635, 0x62D]),
    (0xFCB2, #[0x635, 0x62E]), (0xFCB3, #[0x635, 0x645]), (0xFCB4, #[0x636, 0x62C]),
    (0xFCB5, #[0x636, 0x62D]), (0xFCB6, #[0x636, 0x62E]), (0xFCB7, #[0x636, 0x645]),
    (0xFCB8, #[0x637, 0x62D]), (0xFCB9, #[0x638, 0x645]), (0xFCBA, #[0x639, 0x62C]),
    (0xFCBB, #[0x639, 0x645]), (0xFCBC, #[0x63A, 0x62C]), (0xFCBD, #[0x63A, 0x645]),
    (0xFCBE, #[0x641, 0x62C]), (0xFCBF, #[0x641, 0x62D]), (0xFCC0, #[0x641, 0x62E]),
    (0xFCC1, #[0x641, 0x645]), (0xFCC2, #[0x642, 0x62D]), (0xFCC3, #[0x642, 0x645]),
    (0xFCC4, #[0x643, 0x62C]), (0xFCC5, #[0x643, 0x62D]), (0xFCC6, #[0x643, 0x62E]),
    (0xFCC7, #[0x643, 0x644]), (0xFCC8, #[0x643, 0x645]), (0xFCC9, #[0x644, 0x62C]),
    (0xFCCA, #[0x644, 0x62D]), (0xFCCB, #[0x644, 0x62E]), (0xFCCC, #[0x644, 0x645]),
    (0xFCCD, #[0x644, 0x647]), (0xFCCE, #[0x645, 0x62C]), (0xFCCF, #[0x645, 0x62D]),
    (0xFCD0, #[0x645, 0x62E]), (0xFCD1, #[0x645, 0x645]), (0xFCD2, #[0x646, 0x62C]),
    (0xFCD3, #[0x646, 0x62D]), (0xFCD4, #[0x646, 0x62E]), (0xFCD5, #[0x646, 0x645]),
    (0xFCD6, #[0x646, 0x647]), (0xFCD7, #[0x647, 0x62C]), (0xFCD8, #[0x647, 0x645]),
    (0xFCD9, #[0x647, 0x670]), (0xFCDA, #[0x64A, 0x62C]), (0xFCDB, #[0x64A, 0x62D]),
    (0xFCDC, #[0x64A, 0x62E]), (0xFCDD, #[0x64A, 0x645]), (0xFCDE, #[0x64A, 0x647]),
    (0xFCDF, #[0x64A, 0x654, 0x645]), (0xFCE0, #[0x64A, 0x654, 0x647]), (0xFCE1, #[0x628, 0x645]),
    (0xFCE2, #[0x628, 0x647]), (0xFCE3, #[0x62A, 0x645]), (0xFCE4, #[0x62A, 0x647]),
    (0xFCE5, #[0x62B, 0x645]), (0xFCE6, #[0x62B, 0x647]), (0xFCE7, #[0x633, 0x645]),
    (0xFCE8, #[0x633, 0x647]), (0xFCE9, #[0x634, 0x645]), (0xFCEA, #[0x634, 0x647]),
    (0xFCEB, #[0x643, 0x644]), (0xFCEC, #[0x643, 0x645]), (0xFCED, #[0x644, 0x645]),
    (0xFCEE, #[0x646, 0x645]), (0xFCEF, #[0x646, 0x647]), (0xFCF0, #[0x64A, 0x645]),
    (0xFCF1, #[0x64A, 0x647]), (0xFCF2, #[0x640, 0x64E, 0x651]), (0xFCF3, #[0x640, 0x64F, 0x651]),
    (0xFCF4, #[0x640, 0x650, 0x651]), (0xFCF5, #[0x637, 0x649]), (0xFCF6, #[0x637, 0x64A]),
    (0xFCF7, #[0x639, 0x649]), (0xFCF8, #[0x639, 0x64A]), (0xFCF9, #[0x63A, 0x649]),
    (0xFCFA, #[0x63A, 0x64A]), (0xFCFB, #[0x633, 0x649]), (0xFCFC, #[0x633, 0x64A]),
    (0xFCFD, #[0x634, 0x649]), (0xFCFE, #[0x634, 0x64A]), (0xFCFF, #[0x62D, 0x649]),
    (0xFD00, #[0x62D, 0x64A]), (0xFD01, #[0x62C, 0x649]), (0xFD02, #[0x62C, 0x64A]),
    (0xFD03, #[0x62E, 0x649]), (0xFD04, #[0x62E, 0x64A]), (0xFD05, #[0x635, 0x649]),
    (0xFD06, #[0x635, 0x64A]), (0xFD07, #[0x636, 0x649]), (0xFD08, #[0x636, 0x64A]),
    (0xFD09, #[0x634, 0x62C]), (0xFD0A, #[0x634, 0x62D]), (0xFD0B, #[0x634, 0x62E]),
    (0xFD0C, #[0x634, 0x645]), (0xFD0D, #[0x634, 0x631]), (0xFD0E, #[0x633, 0x631]),
    (0xFD0F, #[0x635, 0x631]), (0xFD10, #[0x636, 0x631]), (0xFD11, #[0x637, 0x649]),
    (0xFD12, #[0x637, 0x64A]), (0xFD13, #[0x639, 0x649]), (0xFD14, #[0x639, 0x64A]),
    (0xFD15, #[0x63A, 0x649]), (0xFD16, #[0x63A, 0x64A]), (0xFD17, #[0x633, 0x649]),
    (0xFD18, #[0x633, 0x64A]), (0xFD19, #[0x634, 0x649]), (0xFD1A, #[0x634, 0x64A]),
    (0xFD1B, #[0x62D, 0x649]), (0xFD1C, #[0x62D, 0x64A]), (0xFD1D, #[0x62C, 0x649]),
    (0xFD1E, #[0x62C, 0x64A]), (0xFD1F, #[0x62E, 0x649]), (0xFD20, #[0x62E, 0x64A]),
    (0xFD21, #[0x635, 0x649]), (0xFD22, #[0x635, 0x64A]), (0xFD23, #[0x636, 0x649]),
    (0xFD24, #[0x636, 0x64A]), (0xFD25, #[0x634, 0x62C]), (0xFD26, #[0x634, 0x62D]),
    (0xFD27, #[0x634, 0x62E]), (0xFD28, #[0x634, 0x645]), (0xFD29, #[0x634, 0x631]),
    (0xFD2A, #[0x633, 0x631]), (0xFD2B, #[0x635, 0x631]), (0xFD2C, #[0x636, 0x631]),
    (0xFD2D, #[0x634, 0x62C]), (0xFD2E, #[0x634, 0x62D]), (0xFD2F, #[0x634, 0x62E]),
    (0xFD30, #[0x634, 0x645]), (0xFD31, #[0x633, 0x647]), (0xFD32, #[0x634, 0x647]),
    (0xFD33, #[0x637, 0x645]), (0xFD34, #[0x633, 0x62C]), (0xFD35, #[0x633, 0x62D]),
    (0xFD36, #[0x633, 0x62E]), (0xFD37, #[0x634, 0x62C]), (0xFD38, #[0x634, 0x62D]),
    (0xFD39, #[0x634, 0x62E]), (0xFD3A, #[0x637, 0x645]), (0xFD3B, #[0x638, 0x645]),
    (0xFD3C, #[0x627, 0x64B]), (0xFD3D, #[0x627, 0x64B]), (0xFD50, #[0x62A, 0x62C, 0x645]),
    (0xFD51, #[0x62A, 0x62D, 0x62C]), (0xFD52, #[0x62A, 0x62D, 0x62C]),
    (0xFD53, #[0x62A, 0x62D, 0x645]), (0xFD54, #[0x62A, 0x62E, 0x645]),
    (0xFD55, #[0x62A, 0x645, 0x62C]), (0xFD56, #[0x62A, 0x645, 0x62D]),
    (0xFD57, #[0x62A, 0x645, 0x62E]), (0xFD58, #[0x62C, 0x645, 0x62D]),
    (0xFD59, #[0x62C, 0x645, 0x62D]), (0xFD5A, #[0x62D, 0x645, 0x64A]),
    (0xFD5B, #[0x62D, 0x645, 0x649]), (0xFD5C, #[0x633, 0x62D, 0x62C]),
    (0xFD5D, #[0x633, 0x62C, 0x62D]), (0xFD5E, #[0x633, 0x62C, 0x649]),
    (0xFD5F, #[0x633, 0x645, 0x62D]), (0xFD60, #[0x633, 0x645, 0x62D]),
    (0xFD61, #[0x633, 0x645, 0x62C]), (0xFD62, #[0x633, 0x645, 0x645]),
    (0xFD63, #[0x633, 0x645, 0x645]), (0xFD64, #[0x635, 0x62D, 0x62D]),
    (0xFD65, #[0x635, 0x62D, 0x62D]), (0xFD66, #[0x635, 0x645, 0x645]),
    (0xFD67, #[0x634, 0x62D, 0x645]), (0xFD68, #[0x634, 0x62D, 0x645]),
    (0xFD69, #[0x634, 0x62C, 0x64A]), (0xFD6A, #[0x634, 0x645, 0x62E]),
    (0xFD6B, #[0x634, 0x645, 0x62E]), (0xFD6C, #[0x634, 0x645, 0x645]),
    (0xFD6D, #[0x634, 0x645, 0x645]), (0xFD6E, #[0x636, 0x62D, 0x649]),
    (0xFD6F, #[0x636, 0x62E, 0x645]), (0xFD70, #[0x636, 0x62E, 0x645]),
    (0xFD71, #[0x637, 0x645, 0x62D]), (0xFD72, #[0x637, 0x645, 0x62D]),
    (0xFD73, #[0x637, 0x645, 0x645]), (0xFD74, #[0x637, 0x645, 0x64A]),
    (0xFD75, #[0x639, 0x62C, 0x645]), (0xFD76, #[0x639, 0x645, 0x645]),
    (0xFD77, #[0x639, 0x645, 0x645]), (0xFD78, #[0x639, 0x645, 0x649]),
    (0xFD79, #[0x63A, 0x645, 0x645]), (0xFD7A, #[0x63A, 0x645, 0x64A]),
    (0xFD7B, #[0x63A, 0x645, 0x649]), (0xFD7C, #[0x641, 0x62E, 0x645]),
    (0xFD7D, #[0x641, 0x62E, 0x645]), (0xFD7E, #[0x642, 0x645, 0x62D]),
    (0xFD7F, #[0x642, 0x645, 0x645]), (0xFD80, #[0x644, 0x62D, 0x645]),
    (0xFD81, #[0x644, 0x62D, 0x64A]), (0xFD82, #[0x644, 0x62D, 0x649]),
    (0xFD83, #[0x644, 0x62C, 0x62C]), (0xFD84, #[0x644, 0x62C, 0x62C]),
    (0xFD85, #[0x644, 0x62E, 0x645]), (0xFD86, #[0x644, 0x62E, 0x645]),
    (0xFD87, #[0x644, 0x645, 0x62D]), (0xFD88, #[0x644, 0x645, 0x62D]),
    (0xFD89, #[0x645, 0x62D, 0x62C]), (0xFD8A, #[0x645, 0x62D, 0x645]),
    (0xFD8B, #[0x645, 0x62D, 0x64A]), (0xFD8C, #[0x645, 0x62C, 0x62D]),
    (0xFD8D, #[0x645, 0x62C, 0x645]), (0xFD8E, #[0x645, 0x62E, 0x62C]),
    (0xFD8F, #[0x645, 0x62E, 0x645]), (0xFD92, #[0x645, 0x62C, 0x62E]),
    (0xFD93, #[0x647, 0x645, 0x62C]), (0xFD94, #[0x647, 0x645, 0x645]),
    (0xFD95, #[0x646, 0x62D, 0x645]), (0xFD96, #[0x646, 0x62D, 0x649]),
    (0xFD97, #[0x646, 0x62C, 0x645]), (0xFD98, #[0x646, 0x62C, 0x645]),
    (0xFD99, #[0x646, 0x62C, 0x649]), (0xFD9A, #[0x646, 0x645, 0x64A]),
    (0xFD9B, #[0x646, 0x645, 0x649]), (0xFD9C, #[0x64A, 0x645, 0x645]),
    (0xFD9D, #[0x64A, 0x645, 0x645]), (0xFD9E, #[0x628, 0x62E, 0x64A]),
    (0xFD9F, #[0x62A, 0x62C, 0x64A]), (0xFDA0, #[0x62A, 0x62C, 0x649]),
    (0xFDA1, #[0x62A, 0x62E, 0x64A]), (0xFDA2, #[0x62A, 0x62E, 0x649]),
    (0xFDA3, #[0x62A, 0x645, 0x64A]), (0xFDA4, #[0x62A, 0x645, 0x649]),
    (0xFDA5, #[0x62C, 0x645, 0x64A]), (0xFDA6, #[0x62C, 0x62D, 0x649]),
    (0xFDA7, #[0x62C, 0x645, 0x649]), (0xFDA8, #[0x633, 0x62E, 0x649]),
    (0xFDA9, #[0x635, 0x62D, 0x64A]), (0xFDAA, #[0x634, 0x62D, 0x64A]),
    (0xFDAB, #[0x636, 0x62D, 0x64A]), (0xFDAC, #[0x644, 0x62C, 0x64A]),
    (0xFDAD, #[0x644, 0x645, 0x64A]), (0xFDAE, #[0x64A, 0x62D, 0x64A]),
    (0xFDAF, #[0x64A, 0x62C, 0x64A]), (0xFDB0, #[0x64A, 0x645, 0x64A]),
    (0xFDB1, #[0x645, 0x645, 0x64A]), (0xFDB2, #[0x642, 0x645, 0x64A]),
    (0xFDB3, #[0x646, 0x62D, 0x64A]), (0xFDB4, #[0x642, 0x645, 0x62D]),
    (0xFDB5, #[0x644, 0x62D, 0x645]), (0xFDB6, #[0x639, 0x645, 0x64A]),
    (0xFDB7, #[0x643, 0x645, 0x64A]), (0xFDB8, #[0x646, 0x62C, 0x62D]),
    (0xFDB9, #[0x645, 0x62E, 0x64A]), (0xFDBA, #[0x644, 0x62C, 0x645]),
    (0xFDBB, #[0x643, 0x645, 0x645]), (0xFDBC, #[0x644, 0x62C, 0x645]),
    (0xFDBD, #[0x646, 0x62C, 0x62D]), (0xFDBE, #[0x62C, 0x62D, 0x64A]),
    (0xFDBF, #[0x62D, 0x62C, 0x64A]), (0xFDC0, #[0x645, 0x62C, 0x64A]),
    (0xFDC1, #[0x641, 0x645, 0x64A]), (0xFDC2, #[0x628, 0x62D, 0x64A]),
    (0xFDC3, #[0x643, 0x645, 0x645]), (0xFDC4, #[0x639, 0x62C, 0x645]),
    (0xFDC5, #[0x635, 0x645, 0x645]), (0xFDC6, #[0x633, 0x62E, 0x64A]),
    (0xFDC7, #[0x646, 0x62C, 0x64A]), (0xFDF0, #[0x635, 0x644, 0x6D2]),
    (0xFDF1, #[0x642, 0x644, 0x6D2]), (0xFDF2, #[0x627, 0x644, 0x644, 0x647]),
    (0xFDF3, #[0x627, 0x643, 0x628, 0x631]), (0xFDF4, #[0x645, 0x62D, 0x645, 0x62F]),
    (0xFDF5, #[0x635, 0x644, 0x639, 0x645]), (0xFDF6, #[0x631, 0x633, 0x648, 0x644]),
    (0xFDF7, #[0x639, 0x644, 0x64A, 0x647]), (0xFDF8, #[0x648, 0x633, 0x644, 0x645]),
    (0xFDF9, #[0x635, 0x644, 0x649]), (0xFE71, #[0x640, 0x64B]), (0xFE77, #[0x640, 0x64E]),
    (0xFE79, #[0x640, 0x64F]), (0xFE7B, #[0x640, 0x650]), (0xFE7D, #[0x640, 0x651]),
    (0xFE7F, #[0x640, 0x652]), (0xFE81, #[0x627, 0x653]), (0xFE82, #[0x627, 0x653]),
    (0xFE83, #[0x627, 0x654]), (0xFE84, #[0x627, 0x654]), (0xFE85, #[0x648, 0x654]),
    (0xFE86, #[0x648, 0x654]), (0xFE87, #[0x627, 0x655]), (0xFE88, #[0x627, 0x655]),
    (0xFE89, #[0x64A, 0x654]), (0xFE8A, #[0x64A, 0x654]), (0xFE8B, #[0x64A, 0x654]),
    (0xFE8C, #[0x64A, 0x654]), (0xFEF5, #[0x644, 0x627, 0x653]), (0xFEF6, #[0x644, 0x627, 0x653]),
    (0xFEF7, #[0x644, 0x627, 0x654]), (0xFEF8, #[0x644, 0x627, 0x654]),
    (0xFEF9, #[0x644, 0x627, 0x655]), (0xFEFA, #[0x644, 0x627, 0x655]), (0xFEFB, #[0x644, 0x627]),
    (0xFEFC, #[0x644, 0x627]), (0x1109A, #[0x11099, 0x110BA]), (0x1109C, #[0x1109B, 0x110BA]),
    (0x110AB, #[0x110A5, 0x110BA]), (0x1112E, #[0x11131, 0x11127]), (0x1112F, #[0x11132, 0x11127]),
    (0x1134B, #[0x11347, 0x1133E]), (0x1134C, #[0x11347, 0x11357]), (0x114BB, #[0x114B9, 0x114BA]),
    (0x114BC, #[0x114B9, 0x114B0]), (0x114BE, #[0x114B9, 0x114BD]), (0x115BA, #[0x115B8, 0x115AF]),
    (0x115BB, #[0x115B9, 0x115AF]), (0x11938, #[0x11935, 0x11930])]

/-- The order classes of combining marks; all other characters have class 0. -/
def combiningClasses : Array (Nat × Nat × Nat) :=
  #[(0x300, 0x314, 230), (0x315, 0x315, 232), (0x316, 0x319, 220), (0x31A, 0x31A, 232),
    (0x31B, 0x31B, 216), (0x31C, 0x320, 220), (0x321, 0x322, 202), (0x323, 0x326, 220),
    (0x327, 0x328, 202), (0x329, 0x333, 220), (0x334, 0x338, 1), (0x339, 0x33C, 220),
    (0x33D, 0x344, 230), (0x345, 0x345, 240), (0x346, 0x346, 230), (0x347, 0x349, 220),
    (0x34A, 0x34C, 230), (0x34D, 0x34E, 220), (0x350, 0x352, 230), (0x353, 0x356, 220),
    (0x357, 0x357, 230), (0x358, 0x358, 232), (0x359, 0x35A, 220), (0x35B, 0x35B, 230),
    (0x35C, 0x35C, 233), (0x35D, 0x35E, 234), (0x35F, 0x35F, 233), (0x360, 0x361, 234),
    (0x362, 0x362, 233), (0x363, 0x36F, 230), (0x483, 0x487, 230), (0x591, 0x591, 220),
    (0x592, 0x595, 230), (0x596, 0x596, 220), (0x597, 0x599, 230), (0x59A, 0x59A, 222),
    (0x59B, 0x59B, 220), (0x59C, 0x5A1, 230), (0x5A2, 0x5A7, 220), (0x5A8, 0x5A9, 230),
    (0x5AA, 0x5AA, 220), (0x5AB, 0x5AC, 230), (0x5AD, 0x5AD, 222), (0x5AE, 0x5AE, 228),
    (0x5AF, 0x5AF, 230), (0x5B0, 0x5B0, 10), (0x5B1, 0x5B1, 11), (0x5B2, 0x5B2, 12),
    (0x5B3, 0x5B3, 13), (0x5B4, 0x5B4, 14), (0x5B5, 0x5B5, 15), (0x5B6, 0x5B6, 16),
    (0x5B7, 0x5B7, 17), (0x5B8, 0x5B8, 18), (0x5B9, 0x5BA, 19), (0x5BB, 0x5BB, 20),
    (0x5BC, 0x5BC, 21), (0x5BD, 0x5BD, 22), (0x5BF, 0x5BF, 23), (0x5C1, 0x5C1, 24),
    (0x5C2, 0x5C2, 25), (0x5C4, 0x5C4, 230), (0x5C5, 0x5C5, 220), (0x5C7, 0x5C7, 18),
    (0x610, 0x617, 230), (0x618, 0x618, 30), (0x619, 0x619, 31), (0x61A, 0x61A, 32),
    (0x64B, 0x64B, 27), (0x64C, 0x64C, 28), (0x64D, 0x64D, 29), (0x64E, 0x64E, 30),
    (0x64F, 0x64F, 31), (0x650, 0x650, 32), (0x651, 0x651, 33), (0x652, 0x652, 34),
    (0x653, 0x654, 230), (0x655, 0x656, 220), (0x657, 0x65B, 230), (0x65C, 0x65C, 220),
    (0x65D, 0x65E, 230), (0x65F, 0x65F, 220), (0x670, 0x670, 35), (0x6D6, 0x6DC, 230),
    (0x6DF, 0x6E2, 230), (0x6E3, 0x6E3, 220), (0x6E4, 0x6E4, 230), (0x6E7, 0x6E8, 230),
    (0x6EA, 0x6EA, 220), (0x6EB, 0x6EC, 230), (0x6ED, 0x6ED, 220), (0x711, 0x711, 36),
    (0x730, 0x730, 230), (0x731, 0x731, 220), (0x732, 0x733, 230), (0x734, 0x734, 220),
    (0x735, 0x736, 230), (0x737, 0x739, 220), (0x73A, 0x73A, 230), (0x73B, 0x73C, 220),
    (0x73D, 0x73D, 230), (0x73E, 0x73E, 220), (0x73F, 0x741, 230), (0x742, 0x742, 220),
    (0x743, 0x743, 230), (0x744, 0x744, 220), (0x745, 0x745, 230), (0x746, 0x746, 220),
    (0x747, 0x747, 230), (0x748, 0x748, 220), (0x749, 0x74A, 230), (0x7EB, 0x7F1, 230),
    (0x7F2, 0x7F2, 220), (0x7F3, 0x7F3, 230), (0x7FD, 0x7FD, 220), (0x816, 0x819, 230),
    (0x81B, 0x823, 230), (0x825, 0x827, 230), (0x829, 0x82D, 230), (0x859, 0x85B, 220),
    (0x898, 0x898, 230), (0x899, 0x89B, 220), (0x89C, 0x89F, 230), (0x8CA, 0x8CE, 230),
    (0x8CF, 0x8D3, 220), (0x8D4, 0x8E1, 230), (0x8E3, 0x8E3, 220), (0x8E4, 0x8E5, 230),
    (0x8E6, 0x8E6, 220), (0x8E7, 0x8E8, 230), (0x8E9, 0x8E9, 220), (0x8EA, 0x8EC, 230),
    (0x8ED, 0x8EF, 220), (0x8F0, 0x8F0, 27), (0x8F1, 0x8F1, 28), (0x8F2, 0x8F2, 29),
    (0x8F3, 0x8F5, 230), (0x8F6, 0x8F6, 220), (0x8F7, 0x8F8, 230), (0x8F9, 0x8FA, 220),
    (0x8FB, 0x8FF, 230), (0x93C, 0x93C, 7), (0x94D, 0x94D, 9), (0x951, 0x951, 230),
    (0x952, 0x952, 220), (0x953, 0x954, 230), (0x9BC, 0x9BC, 7), (0x9CD, 0x9CD, 9),
    (0x9FE, 0x9FE, 230), (0xA3C, 0xA3C, 7), (0xA4D, 0xA4D, 9), (0xABC, 0xABC, 7), (0xACD, 0xACD, 9),
    (0xB3C, 0xB3C, 7), (0xB4D, 0xB4D, 9), (0xBCD, 0xBCD, 9), (0xC3C, 0xC3C, 7), (0xC4D, 0xC4D, 9),
    (0xC55, 0xC55, 84), (0xC56, 0xC56, 91), (0xCBC, 0xCBC, 7), (0xCCD, 0xCCD, 9), (0xD3B, 0xD3C, 9),
    (0xD4D, 0xD4D, 9), (0xDCA, 0xDCA, 9), (0xE38, 0xE39, 103), (0xE3A, 0xE3A, 9),
    (0xE48, 0xE4B, 107), (0xEB8, 0xEB9, 118), (0xEBA, 0xEBA, 9), (0xEC8, 0xECB, 122),
    (0xF18, 0xF19, 220), (0xF35, 0xF35, 220), (0xF37, 0xF37, 220), (0xF39, 0xF39, 216),
    (0xF71, 0xF71, 129), (0xF72, 0xF72, 130), (0xF74, 0xF74, 132), (0xF7A, 0xF7D, 130),
    (0xF80, 0xF80, 130), (0xF82, 0xF83, 230), (0xF84, 0xF84, 9), (0xF86, 0xF87, 230),
    (0xFC6, 0xFC6, 220), (0x1037, 0x1037, 7), (0x1039, 0x103A, 9), (0x108D, 0x108D, 220),
    (0x135D, 0x135F, 230), (0x1714, 0x1715, 9), (0x1734, 0x1734, 9), (0x17D2, 0x17D2, 9),
    (0x17DD, 0x17DD, 230), (0x18A9, 0x18A9, 228), (0x1939, 0x1939, 222), (0x193A, 0x193A, 230),
    (0x193B, 0x193B, 220), (0x1A17, 0x1A17, 230), (0x1A18, 0x1A18, 220), (0x1A60, 0x1A60, 9),
    (0x1A75, 0x1A7C, 230), (0x1A7F, 0x1A7F, 220), (0x1AB0, 0x1AB4, 230), (0x1AB5, 0x1ABA, 220),
    (0x1ABB, 0x1ABC, 230), (0x1ABD, 0x1ABD, 220), (0x1ABF, 0x1AC0, 220), (0x1AC1, 0x1AC2, 230),
    (0x1AC3, 0x1AC4, 220), (0x1AC5, 0x1AC9, 230), (0x1ACA, 0x1ACA, 220), (0x1ACB, 0x1ACE, 230),
    (0x1B34, 0x1B34, 7), (0x1B44, 0x1B44, 9), (0x1B6B, 0x1B6B, 230), (0x1B6C, 0x1B6C, 220),
    (0x1B6D, 0x1B73, 230), (0x1BAA, 0x1BAB, 9), (0x1BE6, 0x1BE6, 7), (0x1BF2, 0x1BF3, 9),
    (0x1C37, 0x1C37, 7), (0x1CD0, 0x1CD2, 230), (0x1CD4, 0x1CD4, 1), (0x1CD5, 0x1CD9, 220),
    (0x1CDA, 0x1CDB, 230), (0x1CDC, 0x1CDF, 220), (0x1CE0, 0x1CE0, 230), (0x1CE2, 0x1CE8, 1),
    (0x1CED, 0x1CED, 220), (0x1CF4, 0x1CF4, 230), (0x1CF8, 0x1CF9, 230), (0x1DC0, 0x1DC1, 230),
    (0x1DC2, 0x1DC2, 220), (0x1DC3, 0x1DC9, 230), (0x1DCA, 0x1DCA, 220), (0x1DCB, 0x1DCC, 230),
    (0x1DCD, 0x1DCD, 234), (0x1DCE, 0x1DCE, 214), (0x1DCF, 0x1DCF, 220), (0x1DD0, 0x1DD0, 202),
    (0x1DD1, 0x1DF5, 230), (0x1DF6, 0x1DF6, 232), (0x1DF7, 0x1DF8, 228), (0x1DF9, 0x1DF9, 220),
    (0x1DFA, 0x1DFA, 218), (0x1DFB, 0x1DFB, 230), (0x1DFC, 0x1DFC, 233), (0x1DFD, 0x1DFD, 220),
    (0x1DFE, 0x1DFE, 230), (0x1DFF, 0x1DFF, 220), (0x20D0, 0x20D1, 230), (0x20D2, 0x20D3, 1),
    (0x20D4, 0x20D7, 230), (0x20D8, 0x20DA, 1), (0x20DB, 0x20DC, 230), (0x20E1, 0x20E1, 230),
    (0x20E5, 0x20E6, 1), (0x20E7, 0x20E7, 230), (0x20E8, 0x20E8, 220), (0x20E9, 0x20E9, 230),
    (0x20EA, 0x20EB, 1), (0x20EC, 0x20EF, 220), (0x20F0, 0x20F0, 230), (0x2CEF, 0x2CF1, 230),
    (0x2D7F, 0x2D7F, 9), (0x2DE0, 0x2DFF, 230), (0x302A, 0x302A, 218), (0x302B, 0x302B, 228),
    (0x302C, 0x302C, 232), (0x302D, 0x302D, 222), (0x302E, 0x302F, 224), (0x3099, 0x309A, 8),
    (0xA66F, 0xA66F, 230), (0xA674, 0xA67D, 230), (0xA69E, 0xA69F, 230), (0xA6F0, 0xA6F1, 230),
    (0xA806, 0xA806, 9), (0xA82C, 0xA82C, 9), (0xA8C4, 0xA8C4, 9), (0xA8E0, 0xA8F1, 230),
    (0xA92B, 0xA92D, 220), (0xA953, 0xA953, 9), (0xA9B3, 0xA9B3, 7), (0xA9C0, 0xA9C0, 9),
    (0xAAB0, 0xAAB0, 230), (0xAAB2, 0xAAB3, 230), (0xAAB4, 0xAAB4, 220), (0xAAB7, 0xAAB8, 230),
    (0xAABE, 0xAABF, 230), (0xAAC1, 0xAAC1, 230), (0xAAF6, 0xAAF6, 9), (0xABED, 0xABED, 9),
    (0xFB1E, 0xFB1E, 26), (0xFE20, 0xFE26, 230), (0xFE27, 0xFE2D, 220), (0xFE2E, 0xFE2F, 230),
    (0x101FD, 0x101FD, 220), (0x102E0, 0x102E0, 220), (0x10376, 0x1037A, 230),
    (0x10A0D, 0x10A0D, 220), (0x10A0F, 0x10A0F, 230), (0x10A38, 0x10A38, 230),
    (0x10A39, 0x10A39, 1), (0x10A3A, 0x10A3A, 220), (0x10A3F, 0x10A3F, 9), (0x10AE5, 0x10AE5, 230),
    (0x10AE6, 0x10AE6, 220), (0x10D24, 0x10D27, 230), (0x10EAB, 0x10EAC, 230),
    (0x10F46, 0x10F47, 220), (0x10F48, 0x10F4A, 230), (0x10F4B, 0x10F4B, 220),
    (0x10F4C, 0x10F4C, 230), (0x10F4D, 0x10F50, 220), (0x10F82, 0x10F82, 230),
    (0x10F83, 0x10F83, 220), (0x10F84, 0x10F84, 230), (0x10F85, 0x10F85, 220),
    (0x11046, 0x11046, 9), (0x11070, 0x11070, 9), (0x1107F, 0x1107F, 9), (0x110B9, 0x110B9, 9),
    (0x110BA, 0x110BA, 7), (0x11100, 0x11102, 230), (0x11133, 0x11134, 9), (0x11173, 0x11173, 7),
    (0x111C0, 0x111C0, 9), (0x111CA, 0x111CA, 7), (0x11235, 0x11235, 9), (0x11236, 0x11236, 7),
    (0x112E9, 0x112E9, 7), (0x112EA, 0x112EA, 9), (0x1133B, 0x1133C, 7), (0x1134D, 0x1134D, 9),
    (0x11366, 0x1136C, 230), (0x11370, 0x11374, 230), (0x11442, 0x11442, 9), (0x11446, 0x11446, 7),
    (0x1145E, 0x1145E, 230), (0x114C2, 0x114C2, 9), (0x114C3, 0x114C3, 7), (0x115BF, 0x115BF, 9),
    (0x115C0, 0x115C0, 7), (0x1163F, 0x1163F, 9), (0x116B6, 0x116B6, 9), (0x116B7, 0x116B7, 7),
    (0x1172B, 0x1172B, 9), (0x11839, 0x11839, 9), (0x1183A, 0x1183A, 7), (0x1193D, 0x1193E, 9),
    (0x11943, 0x11943, 7), (0x119E0, 0x119E0, 9), (0x11A34, 0x11A34, 9), (0x11A47, 0x11A47, 9),
    (0x11A99, 0x11A99, 9), (0x11C3F, 0x11C3F, 9), (0x11D42, 0x11D42, 7), (0x11D44, 0x11D45, 9),
    (0x11D97, 0x11D97, 9), (0x16AF0, 0x16AF4, 1), (0x16B30, 0x16B36, 230), (0x16FF0, 0x16FF1, 6),
    (0x1BC9E, 0x1BC9E, 1), (0x1D165, 0x1D166, 216), (0x1D167, 0x1D169, 1), (0x1D16D, 0x1D16D, 226),
    (0x1D16E, 0x1D172, 216), (0x1D17B, 0x1D182, 220), (0x1D185, 0x1D189, 230),
    (0x1D18A, 0x1D18B, 220), (0x1D1AA, 0x1D1AD, 230), (0x1D242, 0x1D244, 230),
    (0x1E000, 0x1E006, 230), (0x1E008, 0x1E018, 230), (0x1E01B, 0x1E021, 230),
    (0x1E023, 0x1E024, 230), (0x1E026, 0x1E02A, 230), (0x1E130, 0x1E136, 230),
    (0x1E2AE, 0x1E2AE, 230), (0x1E2EC, 0x1E2EF, 230), (0x1E8D0, 0x1E8D6, 220),
    (0x1E944, 0x1E949, 230), (0x1E94A, 0x1E94A, 7)]

/-- Pairs that compose into one character, the composed character first. -/
def compositions : Array (Nat × Array Nat) :=
  #[(0xC0, #[0x41, 0x300]), (0xC1, #[0x41, 0x301]), (0xC2, #[0x41, 0x302]), (0xC3, #[0x41, 0x303]),
    (0xC4, #[0x41, 0x308]), (0xC5, #[0x41, 0x30A]), (0xC7, #[0x43, 0x327]), (0xC8, #[0x45, 0x300]),
    (0xC9, #[0x45, 0x301]), (0xCA, #[0x45, 0x302]), (0xCB, #[0x45, 0x308]), (0xCC, #[0x49, 0x300]),
    (0xCD, #[0x49, 0x301]), (0xCE, #[0x49, 0x302]), (0xCF, #[0x49, 0x308]), (0xD1, #[0x4E, 0x303]),
    (0xD2, #[0x4F, 0x300]), (0xD3, #[0x4F, 0x301]), (0xD4, #[0x4F, 0x302]), (0xD5, #[0x4F, 0x303]),
    (0xD6, #[0x4F, 0x308]), (0xD9, #[0x55, 0x300]), (0xDA, #[0x55, 0x301]), (0xDB, #[0x55, 0x302]),
    (0xDC, #[0x55, 0x308]), (0xDD, #[0x59, 0x301]), (0xE0, #[0x61, 0x300]), (0xE1, #[0x61, 0x301]),
    (0xE2, #[0x61, 0x302]), (0xE3, #[0x61, 0x303]), (0xE4, #[0x61, 0x308]), (0xE5, #[0x61, 0x30A]),
    (0xE7, #[0x63, 0x327]), (0xE8, #[0x65, 0x300]), (0xE9, #[0x65, 0x301]), (0xEA, #[0x65, 0x302]),
    (0xEB, #[0x65, 0x308]), (0xEC, #[0x69, 0x300]), (0xED, #[0x69, 0x301]), (0xEE, #[0x69, 0x302]),
    (0xEF, #[0x69, 0x308]), (0xF1, #[0x6E, 0x303]), (0xF2, #[0x6F, 0x300]), (0xF3, #[0x6F, 0x301]),
    (0xF4, #[0x6F, 0x302]), (0xF5, #[0x6F, 0x303]), (0xF6, #[0x6F, 0x308]), (0xF9, #[0x75, 0x300]),
    (0xFA, #[0x75, 0x301]), (0xFB, #[0x75, 0x302]), (0xFC, #[0x75, 0x308]), (0xFD, #[0x79, 0x301]),
    (0xFF, #[0x79, 0x308]), (0x100, #[0x41, 0x304]), (0x101, #[0x61, 0x304]),
    (0x102, #[0x41, 0x306]), (0x103, #[0x61, 0x306]), (0x104, #[0x41, 0x328]),
    (0x105, #[0x61, 0x328]), (0x106, #[0x43, 0x301]), (0x107, #[0x63, 0x301]),
    (0x108, #[0x43, 0x302]), (0x109, #[0x63, 0x302]), (0x10A, #[0x43, 0x307]),
    (0x10B, #[0x63, 0x307]), (0x10C, #[0x43, 0x30C]), (0x10D, #[0x63, 0x30C]),
    (0x10E, #[0x44, 0x30C]), (0x10F, #[0x64, 0x30C]), (0x112, #[0x45, 0x304]),
    (0x113, #[0x65, 0x304]), (0x114, #[0x45, 0x306]), (0x115, #[0x65, 0x306]),
    (0x116, #[0x45, 0x307]), (0x117, #[0x65, 0x307]), (0x118, #[0x45, 0x328]),
    (0x119, #[0x65, 0x328]), (0x11A, #[0x45, 0x30C]), (0x11B, #[0x65, 0x30C]),
    (0x11C, #[0x47, 0x302]), (0x11D, #[0x67, 0x302]), (0x11E, #[0x47, 0x306]),
    (0x11F, #[0x67, 0x306]), (0x120, #[0x47, 0x307]), (0x121, #[0x67, 0x307]),
    (0x122, #[0x47, 0x327]), (0x123, #[0x67, 0x327]), (0x124, #[0x48, 0x302]),
    (0x125, #[0x68, 0x302]), (0x128, #[0x49, 0x303]), (0x129, #[0x69, 0x303]),
    (0x12A, #[0x49, 0x304]), (0x12B, #[0x69, 0x304]), (0x12C, #[0x49, 0x306]),
    (0x12D, #[0x69, 0x306]), (0x12E, #[0x49, 0x328]), (0x12F, #[0x69, 0x328]),
    (0x130, #[0x49, 0x307]), (0x134, #[0x4A, 0x302]), (0x135, #[0x6A, 0x302]),
    (0x136, #[0x4B, 0x327]), (0x137, #[0x6B, 0x327]), (0x139, #[0x4C, 0x301]),
    (0x13A, #[0x6C, 0x301]), (0x13B, #[0x4C, 0x327]), (0x13C, #[0x6C, 0x327]),
    (0x13D, #[0x4C, 0x30C]), (0x13E, #[0x6C, 0x30C]), (0x143, #[0x4E, 0x301]),
    (0x144, #[0x6E, 0x301]), (0x145, #[0x4E, 0x327]), (0x146, #[0x6E, 0x327]),
    (0x147, #[0x4E, 0x30C]), (0x148, #[0x6E, 0x30C]), (0x14C, #[0x4F, 0x304]),
    (0x14D, #[0x6F, 0x304]), (0x14E, #[0x4F, 0x306]), (0x14F, #[0x6F, 0x306]),
    (0x150, #[0x4F, 0x30B]), (0x151, #[0x6F, 0x30B]), (0x154, #[0x52, 0x301]),
    (0x155, #[0x72, 0x301]), (0x156, #[0x52, 0x327]), (0x157, #[0x72, 0x327]),
    (0x158, #[0x52, 0x30C]), (0x159, #[0x72, 0x30C]), (0x15A, #[0x53, 0x301]),
    (0x15B, #[0x73, 0x301]), (0x15C, #[0x53, 0x302]), (0x15D, #[0x73, 0x302]),
    (0x15E, #[0x53, 0x327]), (0x15F, #[0x73, 0x327]), (0x160, #[0x53, 0x30C]),
    (0x161, #[0x73, 0x30C]), (0x162, #[0x54, 0x327]), (0x163, #[0x74, 0x327]),
    (0x164, #[0x54, 0x30C]), (0x165, #[0x74, 0x30C]), (0x168, #[0x55, 0x303]),
    (0x169, #[0x75, 0x303]), (0x16A, #[0x55, 0x304]), (0x16B, #[0x75, 0x304]),
    (0x16C, #[0x55, 0x306]), (0x16D, #[0x75, 0x306]), (0x16E, #[0x55, 0x30A]),
    (0x16F, #[0x75, 0x30A]), (0x170, #[0x55, 0x30B]), (0x171, #[0x75, 0x30B]),
    (0x172, #[0x55, 0x328]), (0x173, #[0x75, 0x328]), (0x174, #[0x57, 0x302]),
    (0x175, #[0x77, 0x302]), (0x176, #[0x59, 0x302]), (0x177, #[0x79, 0x302]),
    (0x178, #[0x59, 0x308]), (0x179, #[0x5A, 0x301]), (0x17A, #[0x7A, 0x301]),
    (0x17B, #[0x5A, 0x307]), (0x17C, #[0x7A, 0x307]), (0x17D, #[0x5A, 0x30C]),
    (0x17E, #[0x7A, 0x30C]), (0x1A0, #[0x4F, 0x31B]), (0x1A1, #[0x6F, 0x31B]),
    (0x1AF, #[0x55, 0x31B]), (0x1B0, #[0x75, 0x31B]), (0x1CD, #[0x41, 0x30C]),
    (0x1CE, #[0x61, 0x30C]), (0x1CF, #[0x49, 0x30C]), (0x1D0, #[0x69, 0x30C]),
    (0x1D1, #[0x4F, 0x30C]), (0x1D2, #[0x6F, 0x30C]), (0x1D3, #[0x55, 0x30C]),
    (0x1D4, #[0x75, 0x30C]), (0x1D5, #[0xDC, 0x304]), (0x1D6, #[0xFC, 0x304]),
    (0x1D7, #[0xDC, 0x301]), (0x1D8, #[0xFC, 0x301]), (0x1D9, #[0xDC, 0x30C]),
    (0x1DA, #[0xFC, 0x30C]), (0x1DB, #[0xDC, 0x300]), (0x1DC, #[0xFC, 0x300]),
    (0x1DE, #[0xC4, 0x304]), (0x1DF, #[0xE4, 0x304]), (0x1E0, #[0x226, 0x304]),
    (0x1E1, #[0x227, 0x304]), (0x1E2, #[0xC6, 0x304]), (0x1E3, #[0xE6, 0x304]),
    (0x1E6, #[0x47, 0x30C]), (0x1E7, #[0x67, 0x30C]), (0x1E8, #[0x4B, 0x30C]),
    (0x1E9, #[0x6B, 0x30C]), (0x1EA, #[0x4F, 0x328]), (0x1EB, #[0x6F, 0x328]),
    (0x1EC, #[0x1EA, 0x304]), (0x1ED, #[0x1EB, 0x304]), (0x1EE, #[0x1B7, 0x30C]),
    (0x1EF, #[0x292, 0x30C]), (0x1F0, #[0x6A, 0x30C]), (0x1F4, #[0x47, 0x301]),
    (0x1F5, #[0x67, 0x301]), (0x1F8, #[0x4E, 0x300]), (0x1F9, #[0x6E, 0x300]),
    (0x1FA, #[0xC5, 0x301]), (0x1FB, #[0xE5, 0x301]), (0x1FC, #[0xC6, 0x301]),
    (0x1FD, #[0xE6, 0x301]), (0x1FE, #[0xD8, 0x301]), (0x1FF, #[0xF8, 0x301]),
    (0x200, #[0x41, 0x30F]), (0x201, #[0x61, 0x30F]), (0x202, #[0x41, 0x311]),
    (0x203, #[0x61, 0x311]), (0x204, #[0x45, 0x30F]), (0x205, #[0x65, 0x30F]),
    (0x206, #[0x45, 0x311]), (0x207, #[0x65, 0x311]), (0x208, #[0x49, 0x30F]),
    (0x209, #[0x69, 0x30F]), (0x20A, #[0x49, 0x311]), (0x20B, #[0x69, 0x311]),
    (0x20C, #[0x4F, 0x30F]), (0x20D, #[0x6F, 0x30F]), (0x20E, #[0x4F, 0x311]),
    (0x20F, #[0x6F, 0x311]), (0x210, #[0x52, 0x30F]), (0x211, #[0x72, 0x30F]),
    (0x212, #[0x52, 0x311]), (0x213, #[0x72, 0x311]), (0x214, #[0x55, 0x30F]),
    (0x215, #[0x75, 0x30F]), (0x216, #[0x55, 0x311]), (0x217, #[0x75, 0x311]),
    (0x218, #[0x53, 0x326]), (0x219, #[0x73, 0x326]), (0x21A, #[0x54, 0x326]),
    (0x21B, #[0x74, 0x326]), (0x21E, #[0x48, 0x30C]), (0x21F, #[0x68, 0x30C]),
    (0x226, #[0x41, 0x307]), (0x227, #[0x61, 0x307]), (0x228, #[0x45, 0x327]),
    (0x229, #[0x65, 0x327]), (0x22A, #[0xD6, 0x304]), (0x22B, #[0xF6, 0x304]),
    (0x22C, #[0xD5, 0x304]), (0x22D, #[0xF5, 0x304]), (0x22E, #[0x4F, 0x307]),
    (0x22F, #[0x6F, 0x307]), (0x230, #[0x22E, 0x304]), (0x231, #[0x22F, 0x304]),
    (0x232, #[0x59, 0x304]), (0x233, #[0x79, 0x304]), (0x385, #[0xA8, 0x301]),
    (0x386, #[0x391, 0x301]), (0x388, #[0x395, 0x301]), (0x389, #[0x397, 0x301]),
    (0x38A, #[0x399, 0x301]), (0x38C, #[0x39F, 0x301]), (0x38E, #[0x3A5, 0x301]),
    (0x38F, #[0x3A9, 0x301]), (0x390, #[0x3CA, 0x301]), (0x3AA, #[0x399, 0x308]),
    (0x3AB, #[0x3A5, 0x308]), (0x3AC, #[0x3B1, 0x301]), (0x3AD, #[0x3B5, 0x301]),
    (0x3AE, #[0x3B7, 0x301]), (0x3AF, #[0x3B9, 0x301]), (0x3B0, #[0x3CB, 0x301]),
    (0x3CA, #[0x3B9, 0x308]), (0x3CB, #[0x3C5, 0x308]), (0x3CC, #[0x3BF, 0x301]),
    (0x3CD, #[0x3C5, 0x301]), (0x3CE, #[0x3C9, 0x301]), (0x3D3, #[0x3D2, 0x301]),
    (0x3D4, #[0x3D2, 0x308]), (0x400, #[0x415, 0x300]), (0x401, #[0x415, 0x308]),
    (0x403, #[0x413, 0x301]), (0x407, #[0x406, 0x308]), (0x40C, #[0x41A, 0x301]),
    (0x40D, #[0x418, 0x300]), (0x40E, #[0x423, 0x306]), (0x419, #[0x418, 0x306]),
    (0x439, #[0x438, 0x306]), (0x450, #[0x435, 0x300]), (0x451, #[0x435, 0x308]),
    (0x453, #[0x433, 0x301]), (0x457, #[0x456, 0x308]), (0x45C, #[0x43A, 0x301]),
    (0x45D, #[0x438, 0x300]), (0x45E, #[0x443, 0x306]), (0x476, #[0x474, 0x30F]),
    (0x477, #[0x475, 0x30F]), (0x4C1, #[0x416, 0x306]), (0x4C2, #[0x436, 0x306]),
    (0x4D0, #[0x410, 0x306]), (0x4D1, #[0x430, 0x306]), (0x4D2, #[0x410, 0x308]),
    (0x4D3, #[0x430, 0x308]), (0x4D6, #[0x415, 0x306]), (0x4D7, #[0x435, 0x306]),
    (0x4DA, #[0x4D8, 0x308]), (0x4DB, #[0x4D9, 0x308]), (0x4DC, #[0x416, 0x308]),
    (0x4DD, #[0x436, 0x308]), (0x4DE, #[0x417, 0x308]), (0x4DF, #[0x437, 0x308]),
    (0x4E2, #[0x418, 0x304]), (0x4E3, #[0x438, 0x304]), (0x4E4, #[0x418, 0x308]),
    (0x4E5, #[0x438, 0x308]), (0x4E6, #[0x41E, 0x308]), (0x4E7, #[0x43E, 0x308]),
    (0x4EA, #[0x4E8, 0x308]), (0x4EB, #[0x4E9, 0x308]), (0x4EC, #[0x42D, 0x308]),
    (0x4ED, #[0x44D, 0x308]), (0x4EE, #[0x423, 0x304]), (0x4EF, #[0x443, 0x304]),
    (0x4F0, #[0x423, 0x308]), (0x4F1, #[0x443, 0x308]), (0x4F2, #[0x423, 0x30B]),
    (0x4F3, #[0x443, 0x30B]), (0x4F4, #[0x427, 0x308]), (0x4F5, #[0x447, 0x308]),
    (0x4F8, #[0x42B, 0x308]), (0x4F9, #[0x44B, 0x308]), (0x622, #[0x627, 0x653]),
    (0x623, #[0x627, 0x654]), (0x624, #[0x648, 0x654]), (0x625, #[0x627, 0x655]),
    (0x626, #[0x64A, 0x654]), (0x6C0, #[0x6D5, 0x654]), (0x6C2, #[0x6C1, 0x654]),
    (0x6D3, #[0x6D2, 0x654]), (0x929, #[0x928, 0x93C]), (0x931, #[0x930, 0x93C]),
    (0x934, #[0x933, 0x93C]), (0x9CB, #[0x9C7, 0x9BE]), (0x9CC, #[0x9C7, 0x9D7]),
    (0xB48, #[0xB47, 0xB56]), (0xB4B, #[0xB47, 0xB3E]), (0xB4C, #[0xB47, 0xB57]),
    (0xB94, #[0xB92, 0xBD7]), (0xBCA, #[0xBC6, 0xBBE]), (0xBCB, #[0xBC7, 0xBBE]),
    (0xBCC, #[0xBC6, 0xBD7]), (0xC48, #[0xC46, 0xC56]), (0xCC0, #[0xCBF, 0xCD5]),
    (0xCC7, #[0xCC6, 0xCD5]), (0xCC8, #[0xCC6, 0xCD6]), (0xCCA, #[0xCC6, 0xCC2]),
    (0xCCB, #[0xCCA, 0xCD5]), (0xD4A, #[0xD46, 0xD3E]), (0xD4B, #[0xD47, 0xD3E]),
    (0xD4C, #[0xD46, 0xD57]), (0xDDA, #[0xDD9, 0xDCA]), (0xDDC, #[0xDD9, 0xDCF]),
    (0xDDD, #[0xDDC, 0xDCA]), (0xDDE, #[0xDD9, 0xDDF]), (0x1026, #[0x1025, 0x102E]),
    (0x1B06, #[0x1B05, 0x1B35]), (0x1B08, #[0x1B07, 0x1B35]), (0x1B0A, #[0x1B09, 0x1B35]),
    (0x1B0C, #[0x1B0B, 0x1B35]), (0x1B0E, #[0x1B0D, 0x1B35]), (0x1B12, #[0x1B11, 0x1B35]),
    (0x1B3B, #[0x1B3A, 0x1B35]), (0x1B3D, #[0x1B3C, 0x1B35]), (0x1B40, #[0x1B3E, 0x1B35]),
    (0x1B41, #[0x1B3F, 0x1B35]), (0x1B43, #[0x1B42, 0x1B35]), (0x1E00, #[0x41, 0x325]),
    (0x1E01, #[0x61, 0x325]), (0x1E02, #[0x42, 0x307]), (0x1E03, #[0x62, 0x307]),
    (0x1E04, #[0x42, 0x323]), (0x1E05, #[0x62, 0x323]), (0x1E06, #[0x42, 0x331]),
    (0x1E07, #[0x62, 0x331]), (0x1E08, #[0xC7, 0x301]), (0x1E09, #[0xE7, 0x301]),
    (0x1E0A, #[0x44, 0x307]), (0x1E0B, #[0x64, 0x307]), (0x1E0C, #[0x44, 0x323]),
    (0x1E0D, #[0x64, 0x323]), (0x1E0E, #[0x44, 0x331]), (0x1E0F, #[0x64, 0x331]),
    (0x1E10, #[0x44, 0x327]), (0x1E11, #[0x64, 0x327]), (0x1E12, #[0x44, 0x32D]),
    (0x1E13, #[0x64, 0x32D]), (0x1E14, #[0x112, 0x300]), (0x1E15, #[0x113, 0x300]),
    (0x1E16, #[0x112, 0x301]), (0x1E17, #[0x113, 0x301]), (0x1E18, #[0x45, 0x32D]),
    (0x1E19, #[0x65, 0x32D]), (0x1E1A, #[0x45, 0x330]), (0x1E1B, #[0x65, 0x330]),
    (0x1E1C, #[0x228, 0x306]), (0x1E1D, #[0x229, 0x306]), (0x1E1E, #[0x46, 0x307]),
    (0x1E1F, #[0x66, 0x307]), (0x1E20, #[0x47, 0x304]), (0x1E21, #[0x67, 0x304]),
    (0x1E22, #[0x48, 0x307]), (0x1E23, #[0x68, 0x307]), (0x1E24, #[0x48, 0x323]),
    (0x1E25, #[0x68, 0x323]), (0x1E26, #[0x48, 0x308]), (0x1E27, #[0x68, 0x308]),
    (0x1E28, #[0x48, 0x327]), (0x1E29, #[0x68, 0x327]), (0x1E2A, #[0x48, 0x32E]),
    (0x1E2B, #[0x68, 0x32E]), (0x1E2C, #[0x49, 0x330]), (0x1E2D, #[0x69, 0x330]),
    (0x1E2E, #[0xCF, 0x301]), (0x1E2F, #[0xEF, 0x301]), (0x1E30, #[0x4B, 0x301]),
    (0x1E31, #[0x6B, 0x301]), (0x1E32, #[0x4B, 0x323]), (0x1E33, #[0x6B, 0x323]),
    (0x1E34, #[0x4B, 0x331]), (0x1E35, #[0x6B, 0x331]), (0x1E36, #[0x4C, 0x323]),
    (0x1E37, #[0x6C, 0x323]), (0x1E38, #[0x1E36, 0x304]), (0x1E39, #[0x1E37, 0x304]),
    (0x1E3A, #[0x4C, 0x331]), (0x1E3B, #[0x6C, 0x331]), (0x1E3C, #[0x4C, 0x32D]),
    (0x1E3D, #[0x6C, 0x32D]), (0x1E3E, #[0x4D, 0x301]), (0x1E3F, #[0x6D, 0x301]),
    (0x1E40, #[0x4D, 0x307]), (0x1E41, #[0x6D, 0x307]), (0x1E42, #[0x4D, 0x323]),
    (0x1E43, #[0x6D, 0x323]), (0x1E44, #[0x4E, 0x307]), (0x1E45, #[0x6E, 0x307]),
    (0x1E46, #[0x4E, 0x323]), (0x1E47, #[0x6E, 0x323]), (0x1E48, #[0x4E, 0x331]),
    (0x1E49, #[0x6E, 0x331]), (0x1E4A, #[0x4E, 0x32D]), (0x1E4B, #[0x6E, 0x32D]),
    (0x1E4C, #[0xD5, 0x301]), (0x1E4D, #[0xF5, 0x301]), (0x1E4E, #[0xD5, 0x308]),
    (0x1E4F, #[0xF5, 0x308]), (0x1E50, #[0x14C, 0x300]), (0x1E51, #[0x14D, 0x300]),
    (0x1E52, #[0x14C, 0x301]), (0x1E53, #[0x14D, 0x301]), (0x1E54, #[0x50, 0x301]),
    (0x1E55, #[0x70, 0x301]), (0x1E56, #[0x50, 0x307]), (0x1E57, #[0x70, 0x307]),
    (0x1E58, #[0x52, 0x307]), (0x1E59, #[0x72, 0x307]), (0x1E5A, #[0x52, 0x323]),
    (0x1E5B, #[0x72, 0x323]), (0x1E5C, #[0x1E5A, 0x304]), (0x1E5D, #[0x1E5B, 0x304]),
    (0x1E5E, #[0x52, 0x331]), (0x1E5F, #[0x72, 0x331]), (0x1E60, #[0x53, 0x307]),
    (0x1E61, #[0x73, 0x307]), (0x1E62, #[0x53, 0x323]), (0x1E63, #[0x73, 0x323]),
    (0x1E64, #[0x15A, 0x307]), (0x1E65, #[0x15B, 0x307]), (0x1E66, #[0x160, 0x307]),
    (0x1E67, #[0x161, 0x307]), (0x1E68, #[0x1E62, 0x307]), (0x1E69, #[0x1E63, 0x307]),
    (0x1E6A, #[0x54, 0x307]), (0x1E6B, #[0x74, 0x307]), (0x1E6C, #[0x54, 0x323]),
    (0x1E6D, #[0x74, 0x323]), (0x1E6E, #[0x54, 0x331]), (0x1E6F, #[0x74, 0x331]),
    (0x1E70, #[0x54, 0x32D]), (0x1E71, #[0x74, 0x32D]), (0x1E72, #[0x55, 0x324]),
    (0x1E73, #[0x75, 0x324]), (0x1E74, #[0x55, 0x330]), (0x1E75, #[0x75, 0x330]),
    (0x1E76, #[0x55, 0x32D]), (0x1E77, #[0x75, 0x32D]), (0x1E78, #[0x168, 0x301]),
    (0x1E79, #[0x169, 0x301]), (0x1E7A, #[0x16A, 0x308]), (0x1E7B, #[0x16B, 0x308]),
    (0x1E7C, #[0x56, 0x303]), (0x1E7D, #[0x76, 0x303]), (0x1E7E, #[0x56, 0x323]),
    (0x1E7F, #[0x76, 0x323]), (0x1E80, #[0x57, 0x300]), (0x1E81, #[0x77, 0x300]),
    (0x1E82, #[0x57, 0x301]), (0x1E83, #[0x77, 0x301]), (0x1E84, #[0x57, 0x308]),
    (0x1E85, #[0x77, 0x308]), (0x1E86, #[0x57, 0x307]), (0x1E87, #[0x77, 0x307]),
    (0x1E88, #[0x57, 0x323]), (0x1E89, #[0x77, 0x323]), (0x1E8A, #[0x58, 0x307]),
    (0x1E8B, #[0x78, 0x307]), (0x1E8C, #[0x58, 0x308]), (0x1E8D, #[0x78, 0x308]),
    (0x1E8E, #[0x59, 0x307]), (0x1E8F, #[0x79, 0x307]), (0x1E90, #[0x5A, 0x302]),
    (0x1E91, #[0x7A, 0x302]), (0x1E92, #[0x5A, 0x323]), (0x1E93, #[0x7A, 0x323]),
    (0x1E94, #[0x5A, 0x331]), (0x1E95, #[0x7A, 0x331]), (0x1E96, #[0x68, 0x331]),
    (0x1E97, #[0x74, 0x308]), (0x1E98, #[0x77, 0x30A]), (0x1E99, #[0x79, 0x30A]),
    (0x1E9B, #[0x17F, 0x307]), (0x1EA0, #[0x41, 0x323]), (0x1EA1, #[0x61, 0x323]),
    (0x1EA2, #[0x41, 0x309]), (0x1EA3, #[0x61, 0x309]), (0x1EA4, #[0xC2, 0x301]),
    (0x1EA5, #[0xE2, 0x301]), (0x1EA6, #[0xC2, 0x300]), (0x1EA7, #[0xE2, 0x300]),
    (0x1EA8, #[0xC2, 0x309]), (0x1EA9, #[0xE2, 0x309]), (0x1EAA, #[0xC2, 0x303]),
    (0x1EAB, #[0xE2, 0x303]), (0x1EAC, #[0x1EA0, 0x302]), (0x1EAD, #[0x1EA1, 0x302]),
    (0x1EAE, #[0x102, 0x301]), (0x1EAF, #[0x103, 0x301]), (0x1EB0, #[0x102, 0x300]),
    (0x1EB1, #[0x103, 0x300]), (0x1EB2, #[0x102, 0x309]), (0x1EB3, #[0x103, 0x309]),
    (0x1EB4, #[0x102, 0x303]), (0x1EB5, #[0x103, 0x303]), (0x1EB6, #[0x1EA0, 0x306]),
    (0x1EB7, #[0x1EA1, 0x306]), (0x1EB8, #[0x45, 0x323]), (0x1EB9, #[0x65, 0x323]),
    (0x1EBA, #[0x45, 0x309]), (0x1EBB, #[0x65, 0x309]), (0x1EBC, #[0x45, 0x303]),
    (0x1EBD, #[0x65, 0x303]), (0x1EBE, #[0xCA, 0x301]), (0x1EBF, #[0xEA, 0x301]),
    (0x1EC0, #[0xCA, 0x300]), (0x1EC1, #[0xEA, 0x300]), (0x1EC2, #[0xCA, 0x309]),
    (0x1EC3, #[0xEA, 0x309]), (0x1EC4, #[0xCA, 0x303]), (0x1EC5, #[0xEA, 0x303]),
    (0x1EC6, #[0x1EB8, 0x302]), (0x1EC7, #[0x1EB9, 0x302]), (0x1EC8, #[0x49, 0x309]),
    (0x1EC9, #[0x69, 0x309]), (0x1ECA, #[0x49, 0x323]), (0x1ECB, #[0x69, 0x323]),
    (0x1ECC, #[0x4F, 0x323]), (0x1ECD, #[0x6F, 0x323]), (0x1ECE, #[0x4F, 0x309]),
    (0x1ECF, #[0x6F, 0x309]), (0x1ED0, #[0xD4, 0x301]), (0x1ED1, #[0xF4, 0x301]),
    (0x1ED2, #[0xD4, 0x300]), (0x1ED3, #[0xF4, 0x300]), (0x1ED4, #[0xD4, 0x309]),
    (0x1ED5, #[0xF4, 0x309]), (0x1ED6, #[0xD4, 0x303]), (0x1ED7, #[0xF4, 0x303]),
    (0x1ED8, #[0x1ECC, 0x302]), (0x1ED9, #[0x1ECD, 0x302]), (0x1EDA, #[0x1A0, 0x301]),
    (0x1EDB, #[0x1A1, 0x301]), (0x1EDC, #[0x1A0, 0x300]), (0x1EDD, #[0x1A1, 0x300]),
    (0x1EDE, #[0x1A0, 0x309]), (0x1EDF, #[0x1A1, 0x309]), (0x1EE0, #[0x1A0, 0x303]),
    (0x1EE1, #[0x1A1, 0x303]), (0x1EE2, #[0x1A0, 0x323]), (0x1EE3, #[0x1A1, 0x323]),
    (0x1EE4, #[0x55, 0x323]), (0x1EE5, #[0x75, 0x323]), (0x1EE6, #[0x55, 0x309]),
    (0x1EE7, #[0x75, 0x309]), (0x1EE8, #[0x1AF, 0x301]), (0x1EE9, #[0x1B0, 0x301]),
    (0x1EEA, #[0x1AF, 0x300]), (0x1EEB, #[0x1B0, 0x300]), (0x1EEC, #[0x1AF, 0x309]),
    (0x1EED, #[0x1B0, 0x309]), (0x1EEE, #[0x1AF, 0x303]), (0x1EEF, #[0x1B0, 0x303]),
    (0x1EF0, #[0x1AF, 0x323]), (0x1EF1, #[0x1B0, 0x323]), (0x1EF2, #[0x59, 0x300]),
    (0x1EF3, #[0x79, 0x300]), (0x1EF4, #[0x59, 0x323]), (0x1EF5, #[0x79, 0x323]),
    (0x1EF6, #[0x59, 0x309]), (0x1EF7, #[0x79, 0x309]), (0x1EF8, #[0x59, 0x303]),
    (0x1EF9, #[0x79, 0x303]), (0x1F00, #[0x3B1, 0x313]), (0x1F01, #[0x3B1, 0x314]),
    (0x1F02, #[0x1F00, 0x300]), (0x1F03, #[0x1F01, 0x300]), (0x1F04, #[0x1F00, 0x301]),
    (0x1F05, #[0x1F01, 0x301]), (0x1F06, #[0x1F00, 0x342]), (0x1F07, #[0x1F01, 0x342]),
    (0x1F08, #[0x391, 0x313]), (0x1F09, #[0x391, 0x314]), (0x1F0A, #[0x1F08, 0x300]),
    (0x1F0B, #[0x1F09, 0x300]), (0x1F0C, #[0x1F08, 0x301]), (0x1F0D, #[0x1F09, 0x301]),
    (0x1F0E, #[0x1F08, 0x342]), (0x1F0F, #[0x1F09, 0x342]), (0x1F10, #[0x3B5, 0x313]),
    (0x1F11, #[0x3B5, 0x314]), (0x1F12, #[0x1F10, 0x300]), (0x1F13, #[0x1F11, 0x300]),
    (0x1F14, #[0x1F10, 0x301]), (0x1F15, #[0x1F11, 0x301]), (0x1F18, #[0x395, 0x313]),
    (0x1F19, #[0x395, 0x314]), (0x1F1A, #[0x1F18, 0x300]), (0x1F1B, #[0x1F19, 0x300]),
    (0x1F1C, #[0x1F18, 0x301]), (0x1F1D, #[0x1F19, 0x301]), (0x1F20, #[0x3B7, 0x313]),
    (0x1F21, #[0x3B7, 0x314]), (0x1F22, #[0x1F20, 0x300]), (0x1F23, #[0x1F21, 0x300]),
    (0x1F24, #[0x1F20, 0x301]), (0x1F25, #[0x1F21, 0x301]), (0x1F26, #[0x1F20, 0x342]),
    (0x1F27, #[0x1F21, 0x342]), (0x1F28, #[0x397, 0x313]), (0x1F29, #[0x397, 0x314]),
    (0x1F2A, #[0x1F28, 0x300]), (0x1F2B, #[0x1F29, 0x300]), (0x1F2C, #[0x1F28, 0x301]),
    (0x1F2D, #[0x1F29, 0x301]), (0x1F2E, #[0x1F28, 0x342]), (0x1F2F, #[0x1F29, 0x342]),
    (0x1F30, #[0x3B9, 0x313]), (0x1F31, #[0x3B9, 0x314]), (0x1F32, #[0x1F30, 0x300]),
    (0x1F33, #[0x1F31, 0x300]), (0x1F34, #[0x1F30, 0x301]), (0x1F35, #[0x1F31, 0x301]),
    (0x1F36, #[0x1F30, 0x342]), (0x1F37, #[0x1F31, 0x342]), (0x1F38, #[0x399, 0x313]),
    (0x1F39, #[0x399, 0x314]), (0x1F3A, #[0x1F38, 0x300]), (0x1F3B, #[0x1F39, 0x300]),
    (0x1F3C, #[0x1F38, 0x301]), (0x1F3D, #[0x1F39, 0x301]), (0x1F3E, #[0x1F38, 0x342]),
    (0x1F3F, #[0x1F39, 0x342]), (0x1F40, #[0x3BF, 0x313]), (0x1F41, #[0x3BF, 0x314]),
    (0x1F42, #[0x1F40, 0x300]), (0x1F43, #[0x1F41, 0x300]), (0x1F44, #[0x1F40, 0x301]),
    (0x1F45, #[0x1F41, 0x301]), (0x1F48, #[0x39F, 0x313]), (0x1F49, #[0x39F, 0x314]),
    (0x1F4A, #[0x1F48, 0x300]), (0x1F4B, #[0x1F49, 0x300]), (0x1F4C, #[0x1F48, 0x301]),
    (0x1F4D, #[0x1F49, 0x301]), (0x1F50, #[0x3C5, 0x313]), (0x1F51, #[0x3C5, 0x314]),
    (0x1F52, #[0x1F50, 0x300]), (0x1F53, #[0x1F51, 0x300]), (0x1F54, #[0x1F50, 0x301]),
    (0x1F55, #[0x1F51, 0x301]), (0x1F56, #[0x1F50, 0x342]), (0x1F57, #[0x1F51, 0x342]),
    (0x1F59, #[0x3A5, 0x314]), (0x1F5B, #[0x1F59, 0x300]), (0x1F5D, #[0x1F59, 0x301]),
    (0x1F5F, #[0x1F59, 0x342]), (0x1F60, #[0x3C9, 0x313]), (0x1F61, #[0x3C9, 0x314]),
    (0x1F62, #[0x1F60, 0x300]), (0x1F63, #[0x1F61, 0x300]), (0x1F64, #[0x1F60, 0x301]),
    (0x1F65, #[0x1F61, 0x301]), (0x1F66, #[0x1F60, 0x342]), (0x1F67, #[0x1F61, 0x342]),
    (0x1F68, #[0x3A9, 0x313]), (0x1F69, #[0x3A9, 0x314]), (0x1F6A, #[0x1F68, 0x300]),
    (0x1F6B, #[0x1F69, 0x300]), (0x1F6C, #[0x1F68, 0x301]), (0x1F6D, #[0x1F69, 0x301]),
    (0x1F6E, #[0x1F68, 0x342]), (0x1F6F, #[0x1F69, 0x342]), (0x1F70, #[0x3B1, 0x300]),
    (0x1F72, #[0x3B5, 0x300]), (0x1F74, #[0x3B7, 0x300]), (0x1F76, #[0x3B9, 0x300]),
    (0x1F78, #[0x3BF, 0x300]), (0x1F7A, #[0x3C5, 0x300]), (0x1F7C, #[0x3C9, 0x300]),
    (0x1F80, #[0x1F00, 0x345]), (0x1F81, #[0x1F01, 0x345]), (0x1F82, #[0x1F02, 0x345]),
    (0x1F83, #[0x1F03, 0x345]), (0x1F84, #[0x1F04, 0x345]), (0x1F85, #[0x1F05, 0x345]),
    (0x1F86, #[0x1F06, 0x345]), (0x1F87, #[0x1F07, 0x345]), (0x1F88, #[0x1F08, 0x345]),
    (0x1F89, #[0x1F09, 0x345]), (0x1F8A, #[0x1F0A, 0x345]), (0x1F8B, #[0x1F0B, 0x345]),
    (0x1F8C, #[0x1F0C, 0x345]), (0x1F8D, #[0x1F0D, 0x345]), (0x1F8E, #[0x1F0E, 0x345]),
    (0x1F8F, #[0x1F0F, 0x345]), (0x1F90, #[0x1F20, 0x345]), (0x1F91, #[0x1F21, 0x345]),
    (0x1F92, #[0x1F22, 0x345]), (0x1F93, #[0x1F23, 0x345]), (0x1F94, #[0x1F24, 0x345]),
    (0x1F95, #[0x1F25, 0x345]), (0x1F96, #[0x1F26, 0x345]), (0x1F97, #[0x1F27, 0x345]),
    (0x1F98, #[0x1F28, 0x345]), (0x1F99, #[0x1F29, 0x345]), (0x1F9A, #[0x1F2A, 0x345]),
    (0x1F9B, #[0x1F2B, 0x345]), (0x1F9C, #[0x1F2C, 0x345]), (0x1F9D, #[0x1F2D, 0x345]),
    (0x1F9E, #[0x1F2E, 0x345]), (0x1F9F, #[0x1F2F, 0x345]), (0x1FA0, #[0x1F60, 0x345]),
    (0x1FA1, #[0x1F61, 0x345]), (0x1FA2, #[0x1F62, 0x345]), (0x1FA3, #[0x1F63, 0x345]),
    (0x1FA4, #[0x1F64, 0x345]), (0x1FA5, #[0x1F65, 0x345]), (0x1FA6, #[0x1F66, 0x345]),
    (0x1FA7, #[0x1F67, 0x345]), (0x1FA8, #[0x1F68, 0x345]), (0x1FA9, #[0x1F69, 0x345]),
    (0x1FAA, #[0x1F6A, 0x345]), (0x1FAB, #[0x1F6B, 0x345]), (0x1FAC, #[0x1F6C, 0x345]),
    (0x1FAD, #[0x1F6D, 0x345]), (0x1FAE, #[0x1F6E, 0x345]), (0x1FAF, #[0x1F6F, 0x345]),
    (0x1FB0, #[0x3B1, 0x306]), (0x1FB1, #[0x3B1, 0x304]), (0x1FB2, #[0x1F70, 0x345]),
    (0x1FB3, #[0x3B1, 0x345]), (0x1FB4, #[0x3AC, 0x345]), (0x1FB6, #[0x3B1, 0x342]),
    (0x1FB7, #[0x1FB6, 0x345]), (0x1FB8, #[0x391, 0x306]), (0x1FB9, #[0x391, 0x304]),
    (0x1FBA, #[0x391, 0x300]), (0x1FBC, #[0x391, 0x345]), (0x1FC1, #[0xA8, 0x342]),
    (0x1FC2, #[0x1F74, 0x345]), (0x1FC3, #[0x3B7, 0x345]), (0x1FC4, #[0x3AE, 0x345]),
    (0x1FC6, #[0x3B7, 0x342]), (0x1FC7, #[0x1FC6, 0x345]), (0x1FC8, #[0x395, 0x300]),
    (0x1FCA, #[0x397, 0x300]), (0x1FCC, #[0x397, 0x345]), (0x1FCD, #[0x1FBF, 0x300]),
    (0x1FCE, #[0x1FBF, 0x301]), (0x1FCF, #[0x1FBF, 0x342]), (0x1FD0, #[0x3B9, 0x306]),
    (0x1FD1, #[0x3B9, 0x304]), (0x1FD2, #[0x3CA, 0x300]), (0x1FD6, #[0x3B9, 0x342]),
    (0x1FD7, #[0x3CA, 0x342]), (0x1FD8, #[0x399, 0x306]), (0x1FD9, #[0x399, 0x304]),
    (0x1FDA, #[0x399, 0x300]), (0x1FDD, #[0x1FFE, 0x300]), (0x1FDE, #[0x1FFE, 0x301]),
    (0x1FDF, #[0x1FFE, 0x342]), (0x1FE0, #[0x3C5, 0x306]), (0x1FE1, #[0x3C5, 0x304]),
    (0x1FE2, #[0x3CB, 0x300]), (0x1FE4, #[0x3C1, 0x313]), (0x1FE5, #[0x3C1, 0x314]),
    (0x1FE6, #[0x3C5, 0x342]), (0x1FE7, #[0x3CB, 0x342]), (0x1FE8, #[0x3A5, 0x306]),
    (0x1FE9, #[0x3A5, 0x304]), (0x1FEA, #[0x3A5, 0x300]), (0x1FEC, #[0x3A1, 0x314]),
    (0x1FED, #[0xA8, 0x300]), (0x1FF2, #[0x1F7C, 0x345]), (0x1FF3, #[0x3C9, 0x345]),
    (0x1FF4, #[0x3CE, 0x345]), (0x1FF6, #[0x3C9, 0x342]), (0x1FF7, #[0x1FF6, 0x345]),
    (0x1FF8, #[0x39F, 0x300]), (0x1FFA, #[0x3A9, 0x300]), (0x1FFC, #[0x3A9, 0x345]),
    (0x219A, #[0x2190, 0x338]), (0x219B, #[0x2192, 0x338]), (0x21AE, #[0x2194, 0x338]),
    (0x21CD, #[0x21D0, 0x338]), (0x21CE, #[0x21D4, 0x338]), (0x21CF, #[0x21D2, 0x338]),
    (0x2204, #[0x2203, 0x338]), (0x2209, #[0x2208, 0x338]), (0x220C, #[0x220B, 0x338]),
    (0x2224, #[0x2223, 0x338]), (0x2226, #[0x2225, 0x338]), (0x2241, #[0x223C, 0x338]),
    (0x2244, #[0x2243, 0x338]), (0x2247, #[0x2245, 0x338]), (0x2249, #[0x2248, 0x338]),
    (0x2260, #[0x3D, 0x338]), (0x2262, #[0x2261, 0x338]), (0x226D, #[0x224D, 0x338]),
    (0x226E, #[0x3C, 0x338]), (0x226F, #[0x3E, 0x338]), (0x2270, #[0x2264, 0x338]),
    (0x2271, #[0x2265, 0x338]), (0x2274, #[0x2272, 0x338]), (0x2275, #[0x2273, 0x338]),
    (0x2278, #[0x2276, 0x338]), (0x2279, #[0x2277, 0x338]), (0x2280, #[0x227A, 0x338]),
    (0x2281, #[0x227B, 0x338]), (0x2284, #[0x2282, 0x338]), (0x2285, #[0x2283, 0x338]),
    (0x2288, #[0x2286, 0x338]), (0x2289, #[0x2287, 0x338]), (0x22AC, #[0x22A2, 0x338]),
    (0x22AD, #[0x22A8, 0x338]), (0x22AE, #[0x22A9, 0x338]), (0x22AF, #[0x22AB, 0x338]),
    (0x22E0, #[0x227C, 0x338]), (0x22E1, #[0x227D, 0x338]), (0x22E2, #[0x2291, 0x338]),
    (0x22E3, #[0x2292, 0x338]), (0x22EA, #[0x22B2, 0x338]), (0x22EB, #[0x22B3, 0x338]),
    (0x22EC, #[0x22B4, 0x338]), (0x22ED, #[0x22B5, 0x338]), (0x304C, #[0x304B, 0x3099]),
    (0x304E, #[0x304D, 0x3099]), (0x3050, #[0x304F, 0x3099]), (0x3052, #[0x3051, 0x3099]),
    (0x3054, #[0x3053, 0x3099]), (0x3056, #[0x3055, 0x3099]), (0x3058, #[0x3057, 0x3099]),
    (0x305A, #[0x3059, 0x3099]), (0x305C, #[0x305B, 0x3099]), (0x305E, #[0x305D, 0x3099]),
    (0x3060, #[0x305F, 0x3099]), (0x3062, #[0x3061, 0x3099]), (0x3065, #[0x3064, 0x3099]),
    (0x3067, #[0x3066, 0x3099]), (0x3069, #[0x3068, 0x3099]), (0x3070, #[0x306F, 0x3099]),
    (0x3071, #[0x306F, 0x309A]), (0x3073, #[0x3072, 0x3099]), (0x3074, #[0x3072, 0x309A]),
    (0x3076, #[0x3075, 0x3099]), (0x3077, #[0x3075, 0x309A]), (0x3079, #[0x3078, 0x3099]),
    (0x307A, #[0x3078, 0x309A]), (0x307C, #[0x307B, 0x3099]), (0x307D, #[0x307B, 0x309A]),
    (0x3094, #[0x3046, 0x3099]), (0x309E, #[0x309D, 0x3099]), (0x30AC, #[0x30AB, 0x3099]),
    (0x30AE, #[0x30AD, 0x3099]), (0x30B0, #[0x30AF, 0x3099]), (0x30B2, #[0x30B1, 0x3099]),
    (0x30B4, #[0x30B3, 0x3099]), (0x30B6, #[0x30B5, 0x3099]), (0x30B8, #[0x30B7, 0x3099]),
    (0x30BA, #[0x30B9, 0x3099]), (0x30BC, #[0x30BB, 0x3099]), (0x30BE, #[0x30BD, 0x3099]),
    (0x30C0, #[0x30BF, 0x3099]), (0x30C2, #[0x30C1, 0x3099]), (0x30C5, #[0x30C4, 0x3099]),
    (0x30C7, #[0x30C6, 0x3099]), (0x30C9, #[0x30C8, 0x3099]), (0x30D0, #[0x30CF, 0x3099]),
    (0x30D1, #[0x30CF, 0x309A]), (0x30D3, #[0x30D2, 0x3099]), (0x30D4, #[0x30D2, 0x309A]),
    (0x30D6, #[0x30D5, 0x3099]), (0x30D7, #[0x30D5, 0x309A]), (0x30D9, #[0x30D8, 0x3099]),
    (0x30DA, #[0x30D8, 0x309A]), (0x30DC, #[0x30DB, 0x3099]), (0x30DD, #[0x30DB, 0x309A]),
    (0x30F4, #[0x30A6, 0x3099]), (0x30F7, #[0x30EF, 0x3099]), (0x30F8, #[0x30F0, 0x3099]),
    (0x30F9, #[0x30F1, 0x3099]), (0x30FA, #[0x30F2, 0x3099]), (0x30FE, #[0x30FD, 0x3099]),
    (0x1109A, #[0x11099, 0x110BA]), (0x1109C, #[0x1109B, 0x110BA]), (0x110AB, #[0x110A5, 0x110BA]),
    (0x1112E, #[0x11131, 0x11127]), (0x1112F, #[0x11132, 0x11127]), (0x1134B, #[0x11347, 0x1133E]),
    (0x1134C, #[0x11347, 0x11357]), (0x114BB, #[0x114B9, 0x114BA]), (0x114BC, #[0x114B9, 0x114B0]),
    (0x114BE, #[0x114B9, 0x114BD]), (0x115BA, #[0x115B8, 0x115AF]), (0x115BB, #[0x115B9, 0x115AF]),
    (0x11938, #[0x11935, 0x11930])]

end Astrolabe.Text
