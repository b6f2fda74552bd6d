import GroupQueue.Text.Printable

/-!
# `GroupQueue.Url.DomainCharacter` — characters in the names of domains

A name of a domain is first brought into a plain form, character by character: capital letters become
small, many a variant of an ASCII letter or digit becomes that letter or digit, and some characters are
left out or not allowed at all. A character whose plain form is not ASCII stays as it is, since only
that it is none matters to what is asked here.

The other tables say how characters stand to each other within a name: which of them are marks, which
way they run, and which of them join in writing.

## Contents
- `isDeniedAscii`, `plainForm?` — the plain form of a character.
- `isPlain` — whether a character is its own plain form.
- `isNonspacingMark`, `isMark` — characters that do not begin a name.
- `Direction`, `Direction.of`, `directions` — which way a character runs.
- `isVirama`, `isTransparent`, `joinsNext`, `joinsPrevious` — characters around a joiner.
-/

namespace GroupQueue.Url

open Text (inRanges isExtending isPrintable)

/-! ## Plain forms -/

/-- The ASCII characters that no name contains: controls, the blank, and those with a meaning in a
    URL. -/
def isDeniedAscii (c : Char) : Bool :=
  c.toNat ≤ 0x20 || c.toNat == 0x7f || "%#/:<>?@[\\]^|".toList.contains c

/-- The characters that are left out. -/
def ignoredRanges : List (Nat × Nat) := [
  (0xad, 0xad), (0x34f, 0x34f), (0x115f, 0x1160), (0x17b4, 0x17b5), (0x180b, 0x180f),
   (0x200b, 0x200b), (0x2060, 0x2064), (0x206a, 0x206f), (0x3164, 0x3164), (0xfe00, 0xfe0f),
   (0xfeff, 0xfeff), (0xffa0, 0xffa0), (0x1bca0, 0x1bca3), (0x1d173, 0x1d17a), (0xe0100, 0xe01ef)]

/-- The characters that are not allowed although they can be seen, or stand for some that are not. -/
def refusedRanges : List (Nat × Nat) := [
  (0xa8, 0xa8), (0xaf, 0xaf), (0xb4, 0xb4), (0xb8, 0xb8), (0x2d8, 0x2dd), (0x37a, 0x37a),
   (0x384, 0x385), (0x1fbd, 0x1fbd), (0x1fbf, 0x1fc1), (0x1fcd, 0x1fcf), (0x1fdd, 0x1fdf),
   (0x1fed, 0x1fee), (0x1ffd, 0x1ffe), (0x2017, 0x2017), (0x2024, 0x2026), (0x203e, 0x203e),
   (0x2047, 0x2049), (0x2100, 0x2101), (0x2105, 0x2106), (0x2488, 0x249b), (0x2a74, 0x2a74),
   (0x2ff0, 0x2fff), (0x309b, 0x309c), (0x31ef, 0x31ef), (0x33c2, 0x33c2), (0x33c7, 0x33c7),
   (0x33d8, 0x33d8), (0xfc5e, 0xfc63), (0xfdfa, 0xfdfb), (0xfe12, 0xfe13), (0xfe16, 0xfe16),
   (0xfe19, 0xfe19), (0xfe30, 0xfe30), (0xfe47, 0xfe4c), (0xfe52, 0xfe52), (0xfe55, 0xfe56),
   (0xfe5f, 0xfe5f), (0xfe64, 0xfe65), (0xfe68, 0xfe68), (0xfe6a, 0xfe6b), (0xfe70, 0xfe70),
   (0xfe72, 0xfe72), (0xfe74, 0xfe74), (0xfe76, 0xfe76), (0xfe78, 0xfe78), (0xfe7a, 0xfe7a),
   (0xfe7c, 0xfe7c), (0xfe7e, 0xfe7e), (0xff03, 0xff03), (0xff05, 0xff05), (0xff0f, 0xff0f),
   (0xff1a, 0xff1a), (0xff1c, 0xff1c), (0xff1e, 0xff20), (0xff3b, 0xff3e), (0xff5c, 0xff5c),
   (0xffe3, 0xffe3), (0xfffc, 0xfffd), (0x1f100, 0x1f100)]

/-- Runs of characters that stand for ASCII letters, digits and signs, in the order of the ASCII
    characters from the given one on. -/
def variantRuns : List (Nat × Nat × Char) := [
  (0xaa, 0xaa, 'a'), (0xb2, 0xb3, '2'), (0xb9, 0xb9, '1'), (0xba, 0xba, 'o'), (0x17f, 0x17f, 's'),
   (0x2b0, 0x2b0, 'h'), (0x2b2, 0x2b2, 'j'), (0x2b3, 0x2b3, 'r'), (0x2b7, 0x2b7, 'w'),
   (0x2b8, 0x2b8, 'y'), (0x2e1, 0x2e1, 'l'), (0x2e2, 0x2e2, 's'), (0x2e3, 0x2e3, 'x'),
   (0x37e, 0x37e, ';'), (0x1d2c, 0x1d2c, 'a'), (0x1d2e, 0x1d2e, 'b'), (0x1d30, 0x1d31, 'd'),
   (0x1d33, 0x1d3a, 'g'), (0x1d3c, 0x1d3c, 'o'), (0x1d3e, 0x1d3e, 'p'), (0x1d3f, 0x1d3f, 'r'),
   (0x1d40, 0x1d41, 't'), (0x1d42, 0x1d42, 'w'), (0x1d43, 0x1d43, 'a'), (0x1d47, 0x1d47, 'b'),
   (0x1d48, 0x1d49, 'd'), (0x1d4d, 0x1d4d, 'g'), (0x1d4f, 0x1d4f, 'k'), (0x1d50, 0x1d50, 'm'),
   (0x1d52, 0x1d52, 'o'), (0x1d56, 0x1d56, 'p'), (0x1d57, 0x1d58, 't'), (0x1d5b, 0x1d5b, 'v'),
   (0x1d62, 0x1d62, 'i'), (0x1d63, 0x1d63, 'r'), (0x1d64, 0x1d65, 'u'), (0x1d9c, 0x1d9c, 'c'),
   (0x1da0, 0x1da0, 'f'), (0x1dbb, 0x1dbb, 'z'), (0x1fef, 0x1fef, '`'), (0x2070, 0x2070, '0'),
   (0x2071, 0x2071, 'i'), (0x2074, 0x2079, '4'), (0x207a, 0x207a, '+'), (0x207c, 0x207c, '='),
   (0x207d, 0x207e, '('), (0x207f, 0x207f, 'n'), (0x2080, 0x2089, '0'), (0x208a, 0x208a, '+'),
   (0x208c, 0x208c, '='), (0x208d, 0x208e, '('), (0x2090, 0x2090, 'a'), (0x2091, 0x2091, 'e'),
   (0x2092, 0x2092, 'o'), (0x2093, 0x2093, 'x'), (0x2095, 0x2095, 'h'), (0x2096, 0x2099, 'k'),
   (0x209a, 0x209a, 'p'), (0x209b, 0x209c, 's'), (0x2102, 0x2102, 'c'), (0x210a, 0x210b, 'g'),
   (0x210c, 0x210c, 'h'), (0x210d, 0x210d, 'h'), (0x210e, 0x210e, 'h'), (0x2110, 0x2110, 'i'),
   (0x2111, 0x2111, 'i'), (0x2112, 0x2112, 'l'), (0x2113, 0x2113, 'l'), (0x2115, 0x2115, 'n'),
   (0x2119, 0x211b, 'p'), (0x211c, 0x211c, 'r'), (0x211d, 0x211d, 'r'), (0x2124, 0x2124, 'z'),
   (0x2128, 0x2128, 'z'), (0x212a, 0x212a, 'k'), (0x212c, 0x212d, 'b'), (0x212f, 0x212f, 'e'),
   (0x2130, 0x2131, 'e'), (0x2133, 0x2133, 'm'), (0x2134, 0x2134, 'o'), (0x2139, 0x2139, 'i'),
   (0x2145, 0x2145, 'd'), (0x2146, 0x2147, 'd'), (0x2148, 0x2149, 'i'), (0x2160, 0x2160, 'i'),
   (0x2164, 0x2164, 'v'), (0x2169, 0x2169, 'x'), (0x216c, 0x216c, 'l'), (0x216d, 0x216e, 'c'),
   (0x216f, 0x216f, 'm'), (0x2170, 0x2170, 'i'), (0x2174, 0x2174, 'v'), (0x2179, 0x2179, 'x'),
   (0x217c, 0x217c, 'l'), (0x217d, 0x217e, 'c'), (0x217f, 0x217f, 'm'), (0x2460, 0x2468, '1'),
   (0x24b6, 0x24cf, 'a'), (0x24d0, 0x24e9, 'a'), (0x24ea, 0x24ea, '0'), (0x2c7c, 0x2c7c, 'j'),
   (0x2c7d, 0x2c7d, 'v'), (0x3002, 0x3002, '.'), (0xa7f1, 0xa7f1, 's'), (0xa7f2, 0xa7f2, 'c'),
   (0xa7f3, 0xa7f3, 'f'), (0xa7f4, 0xa7f4, 'q'), (0xfb29, 0xfb29, '+'), (0xfe10, 0xfe10, ','),
   (0xfe14, 0xfe14, ';'), (0xfe15, 0xfe15, '!'), (0xfe33, 0xfe33, '_'), (0xfe34, 0xfe34, '_'),
   (0xfe35, 0xfe36, '('), (0xfe37, 0xfe37, '{'), (0xfe38, 0xfe38, '}'), (0xfe4d, 0xfe4d, '_'),
   (0xfe4e, 0xfe4e, '_'), (0xfe4f, 0xfe4f, '_'), (0xfe50, 0xfe50, ','), (0xfe54, 0xfe54, ';'),
   (0xfe57, 0xfe57, '!'), (0xfe59, 0xfe5a, '('), (0xfe5b, 0xfe5b, '{'), (0xfe5c, 0xfe5c, '}'),
   (0xfe60, 0xfe60, '&'), (0xfe61, 0xfe62, '*'), (0xfe63, 0xfe63, '-'), (0xfe66, 0xfe66, '='),
   (0xfe69, 0xfe69, '$'), (0xff01, 0xff02, '!'), (0xff04, 0xff04, '$'), (0xff06, 0xff0e, '&'),
   (0xff10, 0xff19, '0'), (0xff1b, 0xff1b, ';'), (0xff1d, 0xff1d, '='), (0xff21, 0xff3a, 'a'),
   (0xff3f, 0xff5b, '_'), (0xff5d, 0xff5e, '}'), (0xff61, 0xff61, '.'), (0x107a5, 0x107a5, 'q'),
   (0x1ccd6, 0x1ccef, 'a'), (0x1ccf0, 0x1ccf9, '0'), (0x1d400, 0x1d419, 'a'),
   (0x1d41a, 0x1d433, 'a'), (0x1d434, 0x1d44d, 'a'), (0x1d44e, 0x1d454, 'a'),
   (0x1d456, 0x1d467, 'i'), (0x1d468, 0x1d481, 'a'), (0x1d482, 0x1d49b, 'a'),
   (0x1d49c, 0x1d49c, 'a'), (0x1d49e, 0x1d49f, 'c'), (0x1d4a2, 0x1d4a2, 'g'),
   (0x1d4a5, 0x1d4a6, 'j'), (0x1d4a9, 0x1d4ac, 'n'), (0x1d4ae, 0x1d4b5, 's'),
   (0x1d4b6, 0x1d4b9, 'a'), (0x1d4bb, 0x1d4bb, 'f'), (0x1d4bd, 0x1d4c3, 'h'),
   (0x1d4c5, 0x1d4cf, 'p'), (0x1d4d0, 0x1d4e9, 'a'), (0x1d4ea, 0x1d503, 'a'),
   (0x1d504, 0x1d505, 'a'), (0x1d507, 0x1d50a, 'd'), (0x1d50d, 0x1d514, 'j'),
   (0x1d516, 0x1d51c, 's'), (0x1d51e, 0x1d537, 'a'), (0x1d538, 0x1d539, 'a'),
   (0x1d53b, 0x1d53e, 'd'), (0x1d540, 0x1d544, 'i'), (0x1d546, 0x1d546, 'o'),
   (0x1d54a, 0x1d550, 's'), (0x1d552, 0x1d56b, 'a'), (0x1d56c, 0x1d585, 'a'),
   (0x1d586, 0x1d59f, 'a'), (0x1d5a0, 0x1d5b9, 'a'), (0x1d5ba, 0x1d5d3, 'a'),
   (0x1d5d4, 0x1d5ed, 'a'), (0x1d5ee, 0x1d607, 'a'), (0x1d608, 0x1d621, 'a'),
   (0x1d622, 0x1d63b, 'a'), (0x1d63c, 0x1d655, 'a'), (0x1d656, 0x1d66f, 'a'),
   (0x1d670, 0x1d689, 'a'), (0x1d68a, 0x1d6a3, 'a'), (0x1d7ce, 0x1d7d7, '0'),
   (0x1d7d8, 0x1d7e1, '0'), (0x1d7e2, 0x1d7eb, '0'), (0x1d7ec, 0x1d7f5, '0'),
   (0x1d7f6, 0x1d7ff, '0'), (0x1f12b, 0x1f12b, 'c'), (0x1f12c, 0x1f12c, 'r'),
   (0x1f130, 0x1f149, 'a'), (0x1fbf0, 0x1fbf9, '0')]

/-- Characters that stand for several ASCII characters. -/
def variantTexts : List (Nat × String) := [
  (0x132, "ij"), (0x133, "ij"), (0x1c7, "lj"), (0x1c8, "lj"), (0x1c9, "lj"), (0x1ca, "nj"),
   (0x1cb, "nj"), (0x1cc, "nj"), (0x1f1, "dz"), (0x1f2, "dz"), (0x1f3, "dz"), (0x203c, "!!"),
   (0x20a8, "rs"), (0x2116, "no"), (0x2120, "sm"), (0x2121, "tel"), (0x2122, "tm"), (0x213b, "fax"),
   (0x2161, "ii"), (0x2162, "iii"), (0x2163, "iv"), (0x2165, "vi"), (0x2166, "vii"),
   (0x2167, "viii"), (0x2168, "ix"), (0x216a, "xi"), (0x216b, "xii"), (0x2171, "ii"),
   (0x2172, "iii"), (0x2173, "iv"), (0x2175, "vi"), (0x2176, "vii"), (0x2177, "viii"),
   (0x2178, "ix"), (0x217a, "xi"), (0x217b, "xii"), (0x2469, "10"), (0x246a, "11"), (0x246b, "12"),
   (0x246c, "13"), (0x246d, "14"), (0x246e, "15"), (0x246f, "16"), (0x2470, "17"), (0x2471, "18"),
   (0x2472, "19"), (0x2473, "20"), (0x2474, "(1)"), (0x2475, "(2)"), (0x2476, "(3)"),
   (0x2477, "(4)"), (0x2478, "(5)"), (0x2479, "(6)"), (0x247a, "(7)"), (0x247b, "(8)"),
   (0x247c, "(9)"), (0x247d, "(10)"), (0x247e, "(11)"), (0x247f, "(12)"), (0x2480, "(13)"),
   (0x2481, "(14)"), (0x2482, "(15)"), (0x2483, "(16)"), (0x2484, "(17)"), (0x2485, "(18)"),
   (0x2486, "(19)"), (0x2487, "(20)"), (0x249c, "(a)"), (0x249d, "(b)"), (0x249e, "(c)"),
   (0x249f, "(d)"), (0x24a0, "(e)"), (0x24a1, "(f)"), (0x24a2, "(g)"), (0x24a3, "(h)"),
   (0x24a4, "(i)"), (0x24a5, "(j)"), (0x24a6, "(k)"), (0x24a7, "(l)"), (0x24a8, "(m)"),
   (0x24a9, "(n)"), (0x24aa, "(o)"), (0x24ab, "(p)"), (0x24ac, "(q)"), (0x24ad, "(r)"),
   (0x24ae, "(s)"), (0x24af, "(t)"), (0x24b0, "(u)"), (0x24b1, "(v)"), (0x24b2, "(w)"),
   (0x24b3, "(x)"), (0x24b4, "(y)"), (0x24b5, "(z)"), (0x2a75, "=="), (0x2a76, "==="),
   (0x3250, "pte"), (0x3251, "21"), (0x3252, "22"), (0x3253, "23"), (0x3254, "24"), (0x3255, "25"),
   (0x3256, "26"), (0x3257, "27"), (0x3258, "28"), (0x3259, "29"), (0x325a, "30"), (0x325b, "31"),
   (0x325c, "32"), (0x325d, "33"), (0x325e, "34"), (0x325f, "35"), (0x32b1, "36"), (0x32b2, "37"),
   (0x32b3, "38"), (0x32b4, "39"), (0x32b5, "40"), (0x32b6, "41"), (0x32b7, "42"), (0x32b8, "43"),
   (0x32b9, "44"), (0x32ba, "45"), (0x32bb, "46"), (0x32bc, "47"), (0x32bd, "48"), (0x32be, "49"),
   (0x32bf, "50"), (0x32cc, "hg"), (0x32cd, "erg"), (0x32ce, "ev"), (0x32cf, "ltd"),
   (0x3371, "hpa"), (0x3372, "da"), (0x3373, "au"), (0x3374, "bar"), (0x3375, "ov"), (0x3376, "pc"),
   (0x3377, "dm"), (0x3378, "dm2"), (0x3379, "dm3"), (0x337a, "iu"), (0x3380, "pa"), (0x3381, "na"),
   (0x3383, "ma"), (0x3384, "ka"), (0x3385, "kb"), (0x3386, "mb"), (0x3387, "gb"), (0x3388, "cal"),
   (0x3389, "kcal"), (0x338a, "pf"), (0x338b, "nf"), (0x338e, "mg"), (0x338f, "kg"), (0x3390, "hz"),
   (0x3391, "khz"), (0x3392, "mhz"), (0x3393, "ghz"), (0x3394, "thz"), (0x3396, "ml"),
   (0x3397, "dl"), (0x3398, "kl"), (0x3399, "fm"), (0x339a, "nm"), (0x339c, "mm"), (0x339d, "cm"),
   (0x339e, "km"), (0x339f, "mm2"), (0x33a0, "cm2"), (0x33a1, "m2"), (0x33a2, "km2"),
   (0x33a3, "mm3"), (0x33a4, "cm3"), (0x33a5, "m3"), (0x33a6, "km3"), (0x33a9, "pa"),
   (0x33aa, "kpa"), (0x33ab, "mpa"), (0x33ac, "gpa"), (0x33ad, "rad"), (0x33b0, "ps"),
   (0x33b1, "ns"), (0x33b3, "ms"), (0x33b4, "pv"), (0x33b5, "nv"), (0x33b7, "mv"), (0x33b8, "kv"),
   (0x33b9, "mv"), (0x33ba, "pw"), (0x33bb, "nw"), (0x33bd, "mw"), (0x33be, "kw"), (0x33bf, "mw"),
   (0x33c3, "bq"), (0x33c4, "cc"), (0x33c5, "cd"), (0x33c8, "db"), (0x33c9, "gy"), (0x33ca, "ha"),
   (0x33cb, "hp"), (0x33cc, "in"), (0x33cd, "kk"), (0x33ce, "km"), (0x33cf, "kt"), (0x33d0, "lm"),
   (0x33d1, "ln"), (0x33d2, "log"), (0x33d3, "lx"), (0x33d4, "mb"), (0x33d5, "mil"),
   (0x33d6, "mol"), (0x33d7, "ph"), (0x33d9, "ppm"), (0x33da, "pr"), (0x33db, "sr"), (0x33dc, "sv"),
   (0x33dd, "wb"), (0x33ff, "gal"), (0xfb00, "ff"), (0xfb01, "fi"), (0xfb02, "fl"), (0xfb03, "ffi"),
   (0xfb04, "ffl"), (0xfb05, "st"), (0xfb06, "st"), (0x1f101, "0,"), (0x1f102, "1,"),
   (0x1f103, "2,"), (0x1f104, "3,"), (0x1f105, "4,"), (0x1f106, "5,"), (0x1f107, "6,"),
   (0x1f108, "7,"), (0x1f109, "8,"), (0x1f10a, "9,"), (0x1f110, "(a)"), (0x1f111, "(b)"),
   (0x1f112, "(c)"), (0x1f113, "(d)"), (0x1f114, "(e)"), (0x1f115, "(f)"), (0x1f116, "(g)"),
   (0x1f117, "(h)"), (0x1f118, "(i)"), (0x1f119, "(j)"), (0x1f11a, "(k)"), (0x1f11b, "(l)"),
   (0x1f11c, "(m)"), (0x1f11d, "(n)"), (0x1f11e, "(o)"), (0x1f11f, "(p)"), (0x1f120, "(q)"),
   (0x1f121, "(r)"), (0x1f122, "(s)"), (0x1f123, "(t)"), (0x1f124, "(u)"), (0x1f125, "(v)"),
   (0x1f126, "(w)"), (0x1f127, "(x)"), (0x1f128, "(y)"), (0x1f129, "(z)"), (0x1f12d, "cd"),
   (0x1f12e, "wz"), (0x1f14a, "hv"), (0x1f14b, "mv"), (0x1f14c, "sd"), (0x1f14d, "ss"),
   (0x1f14e, "ppv"), (0x1f14f, "wc"), (0x1f16a, "mc"), (0x1f16b, "md"), (0x1f16c, "mr"),
   (0x1f190, "dj")]

/-- Other characters that have another plain form than themselves. -/
def changingRanges : List (Nat × Nat) := [
  (0xb5, 0xb5), (0xbc, 0xbe), (0xc0, 0xd6), (0xd8, 0xde), (0x13f, 0x141), (0x149, 0x14a),
   (0x178, 0x179), (0x181, 0x182), (0x184, 0x184), (0x186, 0x187), (0x189, 0x18b), (0x18e, 0x191),
   (0x193, 0x194), (0x196, 0x198), (0x19c, 0x19d), (0x19f, 0x1a0), (0x1a6, 0x1a7), (0x1a9, 0x1a9),
   (0x1ac, 0x1ac), (0x1ae, 0x1af), (0x1b1, 0x1b3), (0x1b5, 0x1b5), (0x1b7, 0x1b8), (0x1bc, 0x1bc),
   (0x1c4, 0x1c6), (0x1f4, 0x1f4), (0x1f6, 0x1f8), (0x23a, 0x23b), (0x23d, 0x23e), (0x241, 0x241),
   (0x243, 0x246), (0x2b1, 0x2b1), (0x2b4, 0x2b6), (0x2e0, 0x2e0), (0x2e4, 0x2e4), (0x340, 0x341),
   (0x343, 0x345), (0x37f, 0x37f), (0x386, 0x38a), (0x38c, 0x38c), (0x38e, 0x38f), (0x391, 0x3a1),
   (0x3a3, 0x3ab), (0x3cf, 0x3d6), (0x3f0, 0x3f2), (0x3f4, 0x3f5), (0x3f7, 0x3f7), (0x3f9, 0x3fa),
   (0x3fd, 0x42f), (0x4c0, 0x4c1), (0x531, 0x556), (0x587, 0x587), (0x675, 0x678), (0x958, 0x95f),
   (0x9dc, 0x9dd), (0x9df, 0x9df), (0xa33, 0xa33), (0xa36, 0xa36), (0xa59, 0xa5b), (0xa5e, 0xa5e),
   (0xb5c, 0xb5d), (0xe33, 0xe33), (0xeb3, 0xeb3), (0xedc, 0xedd), (0xf0c, 0xf0c), (0xf43, 0xf43),
   (0xf4d, 0xf4d), (0xf52, 0xf52), (0xf57, 0xf57), (0xf5c, 0xf5c), (0xf69, 0xf69), (0xf73, 0xf73),
   (0xf75, 0xf79), (0xf81, 0xf81), (0xf93, 0xf93), (0xf9d, 0xf9d), (0xfa2, 0xfa2), (0xfa7, 0xfa7),
   (0xfac, 0xfac), (0xfb9, 0xfb9), (0x10a0, 0x10c5), (0x10c7, 0x10c7), (0x10cd, 0x10cd),
   (0x10fc, 0x10fc), (0x13f8, 0x13fd), (0x1c80, 0x1c89), (0x1c90, 0x1cba), (0x1cbd, 0x1cbf),
   (0x1d2d, 0x1d2d), (0x1d32, 0x1d32), (0x1d3d, 0x1d3d), (0x1d44, 0x1d46), (0x1d4a, 0x1d4c),
   (0x1d51, 0x1d51), (0x1d53, 0x1d55), (0x1d59, 0x1d5a), (0x1d5c, 0x1d61), (0x1d66, 0x1d6a),
   (0x1d78, 0x1d78), (0x1d9b, 0x1d9b), (0x1d9d, 0x1d9f), (0x1da1, 0x1dba), (0x1dbc, 0x1dbf),
   (0x1e9a, 0x1e9b), (0x1f08, 0x1f0f), (0x1f18, 0x1f1d), (0x1f28, 0x1f2f), (0x1f38, 0x1f3f),
   (0x1f48, 0x1f4d), (0x1f68, 0x1f6f), (0x1f80, 0x1faf), (0x1fb2, 0x1fb4), (0x1fb7, 0x1fbc),
   (0x1fbe, 0x1fbe), (0x1fc2, 0x1fc4), (0x1fc7, 0x1fcc), (0x1fd3, 0x1fd3), (0x1fd8, 0x1fdb),
   (0x1fe3, 0x1fe3), (0x1fe8, 0x1fec), (0x1ff2, 0x1ff4), (0x1ff7, 0x1ffc), (0x2011, 0x2011),
   (0x2033, 0x2034), (0x2036, 0x2037), (0x2057, 0x2057), (0x207b, 0x207b), (0x208b, 0x208b),
   (0x2094, 0x2094), (0x2103, 0x2103), (0x210f, 0x210f), (0x2126, 0x2126), (0x212b, 0x212b),
   (0x2132, 0x2132), (0x2135, 0x2138), (0x213c, 0x2140), (0x2150, 0x215f), (0x2183, 0x2183),
   (0x2189, 0x2189), (0x222c, 0x222d), (0x222f, 0x2230), (0x2329, 0x232a), (0x2a0c, 0x2a0c),
   (0x2adc, 0x2adc), (0x2c00, 0x2c2f), (0x2c60, 0x2c60), (0x2c62, 0x2c64), (0x2c6d, 0x2c70),
   (0x2c72, 0x2c72), (0x2c75, 0x2c75), (0x2c7e, 0x2c80), (0x2cf2, 0x2cf2), (0x2d6f, 0x2d6f),
   (0x2e9f, 0x2e9f), (0x2ef3, 0x2ef3), (0x2f00, 0x2fd5), (0x3036, 0x3036), (0x3038, 0x303a),
   (0x309f, 0x309f), (0x30ff, 0x30ff), (0x3131, 0x3163), (0x3165, 0x318e), (0x3192, 0x319f),
   (0x3200, 0x321e), (0x3220, 0x3247), (0x3260, 0x327e), (0x3280, 0x32b0), (0x32c0, 0x32cb),
   (0x32d0, 0x3370), (0x337b, 0x337f), (0x3382, 0x3382), (0x338c, 0x338d), (0x3395, 0x3395),
   (0x339b, 0x339b), (0x33a7, 0x33a8), (0x33ae, 0x33af), (0x33b2, 0x33b2), (0x33b6, 0x33b6),
   (0x33bc, 0x33bc), (0x33c0, 0x33c1), (0x33c6, 0x33c6), (0x33de, 0x33fe), (0xa69c, 0xa69d),
   (0xa77d, 0xa77e), (0xa7aa, 0xa7ae), (0xa7b0, 0xa7b4), (0xa7c4, 0xa7c7), (0xa7c9, 0xa7c9),
   (0xa7cb, 0xa7cc), (0xa7f5, 0xa7f5), (0xa7f8, 0xa7f9), (0xab5c, 0xab5f), (0xab69, 0xab69),
   (0xab70, 0xabbf), (0xf900, 0xfa0d), (0xfa15, 0xfa1e), (0xfa25, 0xfa26), (0xfa2a, 0xfa6d),
   (0xfa70, 0xfad9), (0xfb13, 0xfb17), (0xfb1d, 0xfb1d), (0xfb1f, 0xfb28), (0xfb2a, 0xfb36),
   (0xfb38, 0xfb3c), (0xfb3e, 0xfb3e), (0xfb40, 0xfb41), (0xfb43, 0xfb44), (0xfb46, 0xfbb1),
   (0xfbd3, 0xfc5d), (0xfc64, 0xfd3d), (0xfd50, 0xfd8f), (0xfd92, 0xfdc7), (0xfdf0, 0xfdf9),
   (0xfdfc, 0xfdfc), (0xfe11, 0xfe11), (0xfe17, 0xfe18), (0xfe31, 0xfe32), (0xfe39, 0xfe44),
   (0xfe51, 0xfe51), (0xfe58, 0xfe58), (0xfe5d, 0xfe5e), (0xfe71, 0xfe71), (0xfe7f, 0xfefc),
   (0xff5f, 0xff60), (0xff62, 0xff9f), (0xffa1, 0xffbe), (0xffc2, 0xffc7), (0xffca, 0xffcf),
   (0xffd2, 0xffd7), (0xffda, 0xffdc), (0xffe0, 0xffe2), (0xffe4, 0xffe6), (0xffe8, 0xffee),
   (0x10400, 0x10427), (0x104b0, 0x104d3), (0x10570, 0x1057a), (0x1057c, 0x1058a),
   (0x1058c, 0x10592), (0x10594, 0x10595), (0x10781, 0x10785), (0x10787, 0x107a4),
   (0x107a6, 0x107b0), (0x107b2, 0x107ba), (0x10c80, 0x10cb2), (0x10d50, 0x10d65),
   (0x118a0, 0x118bf), (0x16e40, 0x16e5f), (0x16ea0, 0x16eb8), (0x1d15e, 0x1d164),
   (0x1d1bb, 0x1d1c0), (0x1d6a4, 0x1d6a5), (0x1d6a8, 0x1d7cb), (0x1e030, 0x1e06d),
   (0x1e900, 0x1e921), (0x1ee00, 0x1ee03), (0x1ee05, 0x1ee1f), (0x1ee21, 0x1ee22),
   (0x1ee24, 0x1ee24), (0x1ee27, 0x1ee27), (0x1ee29, 0x1ee32), (0x1ee34, 0x1ee37),
   (0x1ee42, 0x1ee42), (0x1ee4d, 0x1ee4f), (0x1ee51, 0x1ee52), (0x1ee54, 0x1ee54),
   (0x1ee61, 0x1ee62), (0x1ee64, 0x1ee64), (0x1ee67, 0x1ee6a), (0x1ee6c, 0x1ee72),
   (0x1ee74, 0x1ee77), (0x1ee79, 0x1ee7c), (0x1ee7e, 0x1ee7e), (0x1ee80, 0x1ee89),
   (0x1ee8b, 0x1ee9b), (0x1eea1, 0x1eea3), (0x1eea5, 0x1eea9), (0x1eeab, 0x1eebb),
   (0x1f12a, 0x1f12a), (0x1f200, 0x1f202), (0x1f210, 0x1f23b), (0x1f240, 0x1f248),
   (0x1f250, 0x1f251), (0x2f800, 0x2fa1d)]

/-- Runs in which every second character, from the first to the last, has another plain form than
    itself: capital letters that alternate with small ones. -/
def alternatingRanges : List (Nat × Nat) := [
  (0x100, 0x130), (0x134, 0x136), (0x139, 0x13d), (0x143, 0x147), (0x14c, 0x176), (0x17b, 0x17d),
   (0x1a2, 0x1a4), (0x1cd, 0x1db), (0x1de, 0x1ee), (0x1fa, 0x232), (0x248, 0x24e), (0x370, 0x376),
   (0x3d8, 0x3ee), (0x460, 0x480), (0x48a, 0x4be), (0x4c3, 0x4cd), (0x4d0, 0x52e), (0x1e00, 0x1e94),
   (0x1e9e, 0x1efe), (0x1f59, 0x1f5f), (0x1f71, 0x1f7d), (0x2107, 0x2109), (0x2c67, 0x2c6b),
   (0x2c82, 0x2ce2), (0x2ceb, 0x2ced), (0xa640, 0xa66c), (0xa680, 0xa69a), (0xa722, 0xa72e),
   (0xa732, 0xa770), (0xa779, 0xa77b), (0xa780, 0xa786), (0xa78b, 0xa78d), (0xa790, 0xa792),
   (0xa796, 0xa7a8), (0xa7b6, 0xa7c2), (0xa7ce, 0xa7dc), (0xfa10, 0xfa12), (0xfa20, 0xfa22),
   (0xfe77, 0xfe7d), (0x1ee39, 0x1ee3b), (0x1ee47, 0x1ee4b), (0x1ee57, 0x1ee5f)]

/-- The joiners, which may stand between certain characters. -/
def isJoiner (c : Char) : Bool := c == '\u200c' || c == '\u200d'

/-- The ASCII character that `c` is a variant of. -/
def variantOf? (c : Char) : Option Char :=
  variantRuns.findSome? fun (first, last, target) =>
    if first ≤ c.toNat ∧ c.toNat ≤ last then some (Char.ofNat (target.toNat + (c.toNat - first)))
    else none

/-- Whether the plain form of `c`, which need not be ASCII, is another character. -/
def isChanging (c : Char) : Bool :=
  inRanges changingRanges c || alternatingRanges.any fun (first, last) =>
    first ≤ c.toNat && c.toNat ≤ last && (c.toNat - first) % 2 == 0

/-- The plain form of a character; `none` if it is not allowed. -/
def plainForm? (c : Char) : Option (List Char) :=
  if c.toNat < 128 then if isDeniedAscii c then none else some [c.toLower]
  else if inRanges ignoredRanges c then some []
  else if isJoiner c then some [c]
  else if !isPrintable c || inRanges refusedRanges c then none
  else
    match variantOf? c, variantTexts.lookup c.toNat with
    | some plain, _ => some [plain]
    | none, some text => some text.toList
    | none, none => some [c]

/-- Whether `c` is its own plain form. -/
def isPlain (c : Char) : Bool := plainForm? c == some [c] && !isChanging c

/-! ## Marks -/

/-- The marks that take up room of their own or run as letters do, and two letters that begin with a
    mark in their plain form. -/
def spacingMarkRanges : List (Nat × Nat) := [
  (0x903, 0x903), (0x93b, 0x93b), (0x93e, 0x940), (0x949, 0x94c), (0x94e, 0x94f), (0x982, 0x983),
   (0x9be, 0x9c0), (0x9c7, 0x9cc), (0x9d7, 0x9d7), (0xa03, 0xa03), (0xa3e, 0xa40), (0xa83, 0xa83),
   (0xabe, 0xac0), (0xac9, 0xacc), (0xb02, 0xb03), (0xb3e, 0xb3e), (0xb40, 0xb40), (0xb47, 0xb4c),
   (0xb57, 0xb57), (0xbbe, 0xbbf), (0xbc1, 0xbcc), (0xbd7, 0xbd7), (0xc01, 0xc03), (0xc41, 0xc44),
   (0xc82, 0xc83), (0xcbe, 0xccb), (0xcd5, 0xcd6), (0xcf3, 0xcf3), (0xd02, 0xd03), (0xd3e, 0xd40),
   (0xd46, 0xd4c), (0xd57, 0xd57), (0xd82, 0xd83), (0xdcf, 0xdd1), (0xdd8, 0xddf), (0xdf2, 0xdf3),
   (0xe33, 0xe33), (0xeb3, 0xeb3), (0xf3e, 0xf3f), (0xf7f, 0xf7f), (0x102b, 0x102c),
   (0x1031, 0x1031), (0x1038, 0x1038), (0x103b, 0x103c), (0x1056, 0x1057), (0x1062, 0x1064),
   (0x1067, 0x106d), (0x1083, 0x1084), (0x1087, 0x108c), (0x108f, 0x108f), (0x109a, 0x109c),
   (0x1715, 0x1715), (0x1734, 0x1734), (0x17b6, 0x17b6), (0x17be, 0x17c5), (0x17c7, 0x17c8),
   (0x1923, 0x1926), (0x1929, 0x1931), (0x1933, 0x1938), (0x1a19, 0x1a1a), (0x1a55, 0x1a55),
   (0x1a57, 0x1a57), (0x1a61, 0x1a61), (0x1a63, 0x1a64), (0x1a6d, 0x1a72), (0x1b04, 0x1b04),
   (0x1b35, 0x1b35), (0x1b3b, 0x1b3b), (0x1b3d, 0x1b41), (0x1b43, 0x1b44), (0x1b82, 0x1b82),
   (0x1ba1, 0x1ba1), (0x1ba6, 0x1ba7), (0x1baa, 0x1baa), (0x1be7, 0x1be7), (0x1bea, 0x1bec),
   (0x1bee, 0x1bee), (0x1bf2, 0x1bf3), (0x1c24, 0x1c2b), (0x1c34, 0x1c35), (0x1ce1, 0x1ce1),
   (0x1cf7, 0x1cf7), (0x302e, 0x302f), (0xa823, 0xa824), (0xa827, 0xa827), (0xa880, 0xa881),
   (0xa8b4, 0xa8c3), (0xa952, 0xa953), (0xa983, 0xa983), (0xa9b4, 0xa9b5), (0xa9ba, 0xa9bb),
   (0xa9be, 0xa9c0), (0xaa2f, 0xaa30), (0xaa33, 0xaa34), (0xaa4d, 0xaa4d), (0xaa7b, 0xaa7b),
   (0xaa7d, 0xaa7d), (0xaaeb, 0xaaeb), (0xaaee, 0xaaef), (0xaaf5, 0xaaf5), (0xabe3, 0xabe4),
   (0xabe6, 0xabe7), (0xabe9, 0xabea), (0xabec, 0xabec), (0x11000, 0x11000), (0x11002, 0x11002),
   (0x11082, 0x11082), (0x110b0, 0x110b2), (0x110b7, 0x110b8), (0x1112c, 0x1112c),
   (0x11145, 0x11146), (0x11182, 0x11182), (0x111b3, 0x111b5), (0x111bf, 0x111c0),
   (0x111ce, 0x111ce), (0x1122c, 0x1122e), (0x11232, 0x11233), (0x11235, 0x11235),
   (0x112e0, 0x112e2), (0x11302, 0x11303), (0x1133e, 0x1133f), (0x11341, 0x1134d),
   (0x11357, 0x11357), (0x11362, 0x11363), (0x113b8, 0x113ba), (0x113c2, 0x113cd),
   (0x113cf, 0x113cf), (0x11435, 0x11437), (0x11440, 0x11441), (0x11445, 0x11445),
   (0x114b0, 0x114b2), (0x114b9, 0x114b9), (0x114bb, 0x114be), (0x114c1, 0x114c1),
   (0x115af, 0x115b1), (0x115b8, 0x115bb), (0x115be, 0x115be), (0x11630, 0x11632),
   (0x1163b, 0x1163c), (0x1163e, 0x1163e), (0x116ac, 0x116ac), (0x116ae, 0x116af),
   (0x116b6, 0x116b6), (0x1171e, 0x1171e), (0x11720, 0x11721), (0x11726, 0x11726),
   (0x1182c, 0x1182e), (0x11838, 0x11838), (0x11930, 0x11938), (0x1193d, 0x1193d),
   (0x11940, 0x11940), (0x11942, 0x11942), (0x119d1, 0x119d3), (0x119dc, 0x119df),
   (0x119e4, 0x119e4), (0x11a07, 0x11a08), (0x11a39, 0x11a39), (0x11a57, 0x11a58),
   (0x11a97, 0x11a97), (0x11b61, 0x11b61), (0x11b65, 0x11b65), (0x11b67, 0x11b67),
   (0x11c2f, 0x11c2f), (0x11c3e, 0x11c3f), (0x11ca9, 0x11ca9), (0x11cb1, 0x11cb1),
   (0x11cb4, 0x11cb4), (0x11d8a, 0x11d8e), (0x11d93, 0x11d94), (0x11d96, 0x11d96),
   (0x11ef5, 0x11ef6), (0x11f03, 0x11f03), (0x11f34, 0x11f35), (0x11f3e, 0x11f3f),
   (0x11f41, 0x11f41), (0x1612a, 0x1612c), (0x16f51, 0x16f87), (0x16ff0, 0x16ff1),
   (0x1d165, 0x1d166), (0x1d16d, 0x1d172)]

/-- Whether `c` is a mark that takes up no room. The iota below is a letter in its plain form. -/
def isNonspacingMark (c : Char) : Bool :=
  isExtending c && !inRanges spacingMarkRanges c && !isJoiner c && c != '\u0345' ||
    c == '\uff9e' || c == '\uff9f'

/-- Whether `c` is a mark, which belongs to the character before it. -/
def isMark (c : Char) : Bool := isNonspacingMark c || inRanges spacingMarkRanges c

/-! ## Directions -/

/-- Which way a character runs. -/
inductive Direction where
  | leftToRight
  | rightToLeft
  /-- A digit that goes with both. -/
  | european
  /-- A digit that goes with characters that run from right to left. -/
  | arabic
  /-- A mark that goes with the character before it. -/
  | mark
  | neutral
deriving DecidableEq, Repr

/-- The digits beyond ASCII that go with characters of both directions. -/
def europeanRanges : List (Nat × Nat) := [
  (0xbc, 0xbe), (0x6f0, 0x6f9), (0x2150, 0x215e), (0x2189, 0x2189), (0x102e1, 0x102fb)]

/-- The digits that go with characters that run from right to left. -/
def arabicRanges : List (Nat × Nat) := [
  (0x660, 0x669), (0x66b, 0x66c), (0x10d30, 0x10d49), (0x10e60, 0x10e7e)]

/-- The characters that run from right to left, with marks and digits between them. -/
def rightToLeftRanges : List (Nat × Nat) := [
  (0x5be, 0x5f4), (0x608, 0x608), (0x60b, 0x60b), (0x60d, 0x60d), (0x61b, 0x64a), (0x66d, 0x6d5),
   (0x6e5, 0x6e6), (0x6ee, 0x7f5), (0x7fa, 0x8c9), (0x2135, 0x2138), (0xfb1d, 0xfbc2),
   (0xfbd3, 0xfd3d), (0xfd50, 0xfd8f), (0xfd92, 0xfdc7), (0xfdf0, 0xfdfc), (0xfe71, 0xfefc),
   (0x10800, 0x1091b), (0x10920, 0x10b35), (0x10b40, 0x10d65), (0x10d6f, 0x10ec7),
   (0x10f00, 0x10ff6), (0x1e800, 0x1eebb)]

/-- The signs beyond ASCII that run neither way, with marks between them. -/
def neutralRanges : List (Nat × Nat) := [
  (0xa1, 0xb1), (0xb6, 0xbb), (0xbf, 0xbf), (0xd7, 0xd7), (0xf7, 0xf7), (0x2b9, 0x2ba),
   (0x2c2, 0x2cf), (0x2d2, 0x2df), (0x2e5, 0x2ed), (0x2ef, 0x2ff), (0x374, 0x375), (0x387, 0x387),
   (0x3f6, 0x3f6), (0x58a, 0x58f), (0x606, 0x607), (0x609, 0x60a), (0x60c, 0x60c), (0x60e, 0x60f),
   (0x66a, 0x66a), (0x6de, 0x6de), (0x6e9, 0x6e9), (0x7f6, 0x7f9), (0x9f2, 0x9f3), (0x9fb, 0x9fb),
   (0xaf1, 0xaf1), (0xbf3, 0xbfa), (0xc78, 0xc7e), (0xe3f, 0xe3f), (0xf3a, 0xf3d), (0x1390, 0x1399),
   (0x1400, 0x1400), (0x169b, 0x169c), (0x17db, 0x17db), (0x17f0, 0x180a), (0x1940, 0x1945),
   (0x19de, 0x19ff), (0x2010, 0x208b), (0x20a0, 0x20c1), (0x2104, 0x2104), (0x2108, 0x2108),
   (0x2114, 0x2125), (0x2127, 0x2129), (0x212e, 0x212e), (0x213a, 0x213a), (0x2140, 0x214d),
   (0x218a, 0x2335), (0x237b, 0x2394), (0x2396, 0x26ab), (0x26ad, 0x27ff), (0x2900, 0x2bff),
   (0x2ce5, 0x2cea), (0x2cf9, 0x2cff), (0x2e00, 0x2e9e), (0x2ea0, 0x2ef2), (0x3001, 0x3004),
   (0x3008, 0x3020), (0x3030, 0x3030), (0x3036, 0x3037), (0x303d, 0x303f), (0x30a0, 0x30a0),
   (0x30fb, 0x30fb), (0x31c0, 0x31e5), (0x4dc0, 0x4dff), (0xa490, 0xa4c6), (0xa60d, 0xa60f),
   (0xa673, 0xa67f), (0xa700, 0xa721), (0xa788, 0xa788), (0xa828, 0xa82b), (0xa838, 0xa839),
   (0xa874, 0xa877), (0xab6a, 0xab6b), (0xfbc3, 0xfbd2), (0xfd3e, 0xfd4f), (0xfd90, 0xfd91),
   (0xfdc8, 0xfdcf), (0xfdfd, 0xfe5e), (0xff5f, 0xff65), (0xffe0, 0xffee), (0x10101, 0x10101),
   (0x10140, 0x1018c), (0x10190, 0x101a0), (0x1091f, 0x1091f), (0x10b39, 0x10b3f),
   (0x10d6e, 0x10d6e), (0x10ed0, 0x10ed8), (0x11052, 0x11065), (0x11660, 0x1166c),
   (0x11fd5, 0x11ff1), (0x16fe2, 0x16fe2), (0x1cc00, 0x1cef0), (0x1d1e9, 0x1d245),
   (0x1d300, 0x1d356), (0x1d6c1, 0x1d6c1), (0x1d6db, 0x1d6db), (0x1d6fb, 0x1d6fb),
   (0x1d715, 0x1d715), (0x1d735, 0x1d735), (0x1d74f, 0x1d74f), (0x1d76f, 0x1d76f),
   (0x1d789, 0x1d789), (0x1d7a9, 0x1d7a9), (0x1d7c3, 0x1d7c3), (0x1e2ff, 0x1e2ff),
   (0x1eef0, 0x1f10f), (0x1f12f, 0x1f12f), (0x1f16d, 0x1f16f), (0x1f1ad, 0x1f1ad),
   (0x1f260, 0x1fbfa)]

/-- The characters that stand for a sign or digit and a letter. -/
def signedLetterRanges : List (Nat × Nat) := [
  (0x2103, 0x2103), (0x2109, 0x2109), (0x32c0, 0x32cb), (0x3358, 0x3370), (0x33e0, 0x33fe)]

/-- The characters that stand for a letter and a sign, or a letter between signs. -/
def enclosedLetterRanges : List (Nat × Nat) := [
  (0x13f, 0x140), (0x3200, 0x3243), (0x1f12a, 0x1f12a), (0x1f240, 0x1f248)]

/-- Which way `c` runs, if it stands for a single character. -/
def Direction.of (c : Char) : Direction :=
  if c.isDigit || inRanges europeanRanges c then european
  else if isNonspacingMark c then mark
  else if inRanges arabicRanges c then arabic
  else if inRanges rightToLeftRanges c then rightToLeft
  else if c.toNat < 128 && !c.isAlpha || isJoiner c || inRanges neutralRanges c then neutral
  else leftToRight

/-- Which way the characters run that `c` stands for. -/
def directions (c : Char) : List Direction :=
  if c == '⅟' then [.european, .neutral]
  else if inRanges signedLetterRanges c then [.neutral, .leftToRight]
  else if inRanges enclosedLetterRanges c then [.neutral, .leftToRight, .neutral]
  else [.of c]

/-! ## Joining -/

/-- The signs that take away the vowel of the character before them. -/
def viramaRanges : List (Nat × Nat) := [
  (0x94d, 0x94d), (0x9cd, 0x9cd), (0xa4d, 0xa4d), (0xacd, 0xacd), (0xb4d, 0xb4d), (0xbcd, 0xbcd),
   (0xc4d, 0xc4d), (0xccd, 0xccd), (0xd3b, 0xd3c), (0xd4d, 0xd4d), (0xdca, 0xdca), (0xe3a, 0xe3a),
   (0xeba, 0xeba), (0xf84, 0xf84), (0x1039, 0x103a), (0x1714, 0x1715), (0x1734, 0x1734),
   (0x17d2, 0x17d2), (0x1a60, 0x1a60), (0x1b44, 0x1b44), (0x1baa, 0x1bab), (0x1bf2, 0x1bf3),
   (0x2d7f, 0x2d7f), (0xa806, 0xa806), (0xa82c, 0xa82c), (0xa8c4, 0xa8c4), (0xa953, 0xa953),
   (0xa9c0, 0xa9c0), (0xaaf6, 0xaaf6), (0xabed, 0xabed), (0x10a3f, 0x10a3f), (0x11046, 0x11046),
   (0x11070, 0x11070), (0x1107f, 0x1107f), (0x110b9, 0x110b9), (0x11133, 0x11134),
   (0x111c0, 0x111c0), (0x11235, 0x11235), (0x112ea, 0x112ea), (0x1134d, 0x1134d),
   (0x113ce, 0x113d0), (0x11442, 0x11442), (0x114c2, 0x114c2), (0x115bf, 0x115bf),
   (0x1163f, 0x1163f), (0x116b6, 0x116b6), (0x1172b, 0x1172b), (0x11839, 0x11839),
   (0x1193d, 0x1193e), (0x119e0, 0x119e0), (0x11a34, 0x11a34), (0x11a47, 0x11a47),
   (0x11a99, 0x11a99), (0x11c3f, 0x11c3f), (0x11d44, 0x11d45), (0x11d97, 0x11d97),
   (0x11f41, 0x11f42), (0x1612f, 0x1612f)]

/-- Whether `c` takes away the vowel of the character before it. -/
def isVirama (c : Char) : Bool := inRanges viramaRanges c

/-- The characters that join with the one after them. -/
def joiningNextRanges : List (Nat × Nat) := [
  (0x620, 0x620), (0x626, 0x626), (0x628, 0x628), (0x62a, 0x62e), (0x633, 0x63f), (0x641, 0x647),
   (0x649, 0x64a), (0x66e, 0x66f), (0x679, 0x687), (0x69a, 0x6bf), (0x6c1, 0x6c2), (0x6cc, 0x6cc),
   (0x6ce, 0x6ce), (0x6d0, 0x6d1), (0x6fa, 0x6fc), (0x6ff, 0x6ff), (0x712, 0x714), (0x71a, 0x71d),
   (0x71f, 0x727), (0x729, 0x729), (0x72b, 0x72b), (0x72d, 0x72e), (0x74e, 0x758), (0x75c, 0x76a),
   (0x76d, 0x770), (0x772, 0x772), (0x775, 0x777), (0x77a, 0x77f), (0x7ca, 0x7ea), (0x841, 0x845),
   (0x848, 0x848), (0x84a, 0x853), (0x855, 0x855), (0x860, 0x860), (0x862, 0x865), (0x868, 0x868),
   (0x886, 0x886), (0x889, 0x88d), (0x88f, 0x88f), (0x8a0, 0x8a9), (0x8af, 0x8b0), (0x8b3, 0x8b8),
   (0x8ba, 0x8c8), (0x1807, 0x1807), (0x1820, 0x1878), (0x1887, 0x18a8), (0x18aa, 0x18aa),
   (0xa840, 0xa872), (0xfb52, 0xfb81), (0xfb8e, 0xfba3), (0xfba6, 0xfbad), (0xfbd3, 0xfbd6),
   (0xfbe4, 0xfbe9), (0xfbf6, 0xfc36), (0xfc38, 0xfc5a), (0xfc5d, 0xfc5d), (0xfc66, 0xfc69),
   (0xfc6c, 0xfc6f), (0xfc72, 0xfc75), (0xfc78, 0xfc7f), (0xfc81, 0xfc87), (0xfc89, 0xfc89),
   (0xfc8c, 0xfc90), (0xfc93, 0xfcf1), (0xfcf5, 0xfd0c), (0xfd11, 0xfd28), (0xfd2d, 0xfd3b),
   (0xfd50, 0xfd8f), (0xfd92, 0xfdc7), (0xfdf2, 0xfdf2), (0xfdf5, 0xfdfc), (0xfe89, 0xfe8c),
   (0xfe8f, 0xfe92), (0xfe95, 0xfea8), (0xfeb1, 0xfeec), (0xfeef, 0xfef4), (0x10ac0, 0x10ac4),
   (0x10acd, 0x10acd), (0x10ad3, 0x10adc), (0x10ade, 0x10ae0), (0x10aeb, 0x10aee),
   (0x10b80, 0x10b80), (0x10b82, 0x10b82), (0x10b86, 0x10b88), (0x10b8a, 0x10b8b),
   (0x10b8d, 0x10b8d), (0x10b90, 0x10b90), (0x10bad, 0x10bae), (0x10d00, 0x10d21),
   (0x10d23, 0x10d23), (0x10ec3, 0x10ec4), (0x10ec6, 0x10ec7), (0x10f30, 0x10f32),
   (0x10f34, 0x10f44), (0x10f51, 0x10f53), (0x10f70, 0x10f73), (0x10f76, 0x10f81),
   (0x10fb0, 0x10fb0), (0x10fb2, 0x10fb3), (0x10fb8, 0x10fb8), (0x10fbb, 0x10fbc),
   (0x10fbe, 0x10fbf), (0x10fc1, 0x10fc1), (0x10fc4, 0x10fc4), (0x10fca, 0x10fcb),
   (0x1e900, 0x1e943), (0x1ee01, 0x1ee02), (0x1ee07, 0x1ee12), (0x1ee14, 0x1ee17),
   (0x1ee19, 0x1ee7e), (0x1ee81, 0x1ee82), (0x1ee84, 0x1ee84), (0x1ee87, 0x1ee92),
   (0x1ee94, 0x1ee97), (0x1ee99, 0x1eea2), (0x1eea7, 0x1eeb2), (0x1eeb4, 0x1eeb7),
   (0x1eeb9, 0x1eebb)]

/-- The characters that join with the one before them. -/
def joiningPreviousRanges : List (Nat × Nat) := [
  (0x620, 0x620), (0x622, 0x63f), (0x641, 0x64a), (0x66e, 0x66f), (0x671, 0x673), (0x675, 0x6d3),
   (0x6d5, 0x6d5), (0x6ee, 0x6ef), (0x6fa, 0x6fc), (0x6ff, 0x6ff), (0x710, 0x710), (0x712, 0x72f),
   (0x74d, 0x77f), (0x7ca, 0x7ea), (0x840, 0x858), (0x860, 0x860), (0x862, 0x865), (0x867, 0x882),
   (0x886, 0x886), (0x889, 0x88f), (0x8a0, 0x8ac), (0x8ae, 0x8c8), (0x1807, 0x1807),
   (0x1820, 0x1878), (0x1887, 0x18a8), (0x18aa, 0x18aa), (0xa840, 0xa871), (0xfb50, 0xfbb1),
   (0xfbd3, 0xfcf1), (0xfcf5, 0xfd3d), (0xfd50, 0xfd8f), (0xfd92, 0xfdc7), (0xfdf0, 0xfdfc),
   (0xfe81, 0xfefc), (0x10ac0, 0x10ac5), (0x10ac7, 0x10ac7), (0x10ac9, 0x10aca), (0x10ace, 0x10ad6),
   (0x10ad8, 0x10ae1), (0x10ae4, 0x10ae4), (0x10aeb, 0x10aef), (0x10b80, 0x10b91),
   (0x10ba9, 0x10bae), (0x10d01, 0x10d23), (0x10ec2, 0x10ec4), (0x10ec6, 0x10ec7),
   (0x10f30, 0x10f44), (0x10f51, 0x10f54), (0x10f70, 0x10f81), (0x10fb0, 0x10fb0),
   (0x10fb2, 0x10fb6), (0x10fb8, 0x10fbf), (0x10fc1, 0x10fc4), (0x10fc9, 0x10fca),
   (0x1e900, 0x1e943), (0x1ee00, 0x1eebb)]

/-- Whether `c` is looked through where it stands between characters that join. -/
def isTransparent (c : Char) : Bool := isNonspacingMark c || c.toNat == 0x1e94b

/-- Whether `c` joins with the character after it. -/
def joinsNext (c : Char) : Bool := inRanges joiningNextRanges c

/-- Whether `c` joins with the character before it. -/
def joinsPrevious (c : Char) : Bool := inRanges joiningPreviousRanges c

end GroupQueue.Url
