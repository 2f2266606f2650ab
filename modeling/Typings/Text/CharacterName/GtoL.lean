/-!
# Names of characters from G to L

`Text.namesFromGToL` holds names in rows of entries with commas between them. An entry starts with
a hexadecimal digit, the number of words that it shares with the name in front of it; its other
words follow.
-/

namespace Typings
namespace Text

def namesFromGToL : List String :=
  ["0GAME DIE,0GARLIC,0GEAR,1WITH HANDLES,1WITHOUT HUB,0GEM STONE,0GEMINI,0GENIE",
   "0GEOMETRIC PROPORTION,0GEOMETRICALLY EQUAL TO,1EQUIVALENT TO,0GEORGIAN CAPITAL LETTER AEN,3AN",
   "3BAN,3CAN,3CHAR,3CHIN,3CIL,3DON,3EN,3GAN,3GHAN,3HAE,3HAR,3HE,3HIE,3HOE,3IN,3JHAN,3JIL,3KAN",
   "3KHAR,3LAS,3MAN,3NAR,3ON,3PAR,3PHAR,3QAR,3RAE,3SAN,3SHIN,3TAN,3TAR,3UN,3VIN,3WE,3XAN,3YN,3ZEN",
   "3ZHAR,1LETTER AEN,2AIN,2AN,2BAN,2CAN,2CHAR,2CHIN,2CIL,2DON,2ELIFI,2EN,2FI,2GAN,2GHAN,2HAE,2HAR",
   "2HARD SIGN,2HE,2HIE,2HOE,2IN,2JHAN,2JIL,2KAN,2KHAR,2LABIAL SIGN,2LAS,2MAN,2NAR,2ON,2PAR,2PHAR",
   "2QAR,2RAE,2SAN,2SHIN,2TAN,2TAR,2TURNED GAN,2UN,2VIN,2WE,2XAN,2YN,2ZEN,2ZHAR",
   "1MTAVRULI CAPITAL LETTER AEN,4AIN,4AN,4BAN,4CAN,4CHAR,4CHIN,4CIL,4DON,4ELIFI,4EN,4FI,4GAN",
   "4GHAN,4HAE,4HAR,4HARD SIGN,4HE,4HIE,4HOE,4IN,4JHAN,4JIL,4KAN,4KHAR,4LABIAL SIGN,4LAS,4MAN,4NAR",
   "4ON,4PAR,4PHAR,4QAR,4RAE,4SAN,4SHIN,4TAN,4TAR,4TURNED GAN,4UN,4VIN,4WE,4XAN,4YN,4ZEN,4ZHAR",
   "1PARAGRAPH SEPARATOR,1SMALL LETTER AEN,3AN,3BAN,3CAN,3CHAR,3CHIN,3CIL,3DON,3EN,3GAN,3GHAN,3HAE",
   "3HAR,3HE,3HIE,3HOE,3IN,3JHAN,3JIL,3KAN,3KHAR,3LAS,3MAN,3NAR,3ON,3PAR,3PHAR,3QAR,3RAE,3SAN",
   "3SHIN,3TAN,3TAR,3UN,3VIN,3WE,3XAN,3YN,3ZEN,3ZHAR,0GERMAN PENNY SIGN,0GETA MARK,0GHOST",
   "0GIMEL SYMBOL,0GIRAFFE FACE,0GIRL,0GIRLS SYMBOL,0GLAGOLITIC CAPITAL LETTER AZU,3BIG YUS,3BUKY",
   "3CAUDATE CHRIVI,3CHRIVI,3DJERVI,3DOBRO,3DZELO,3FITA,3FRITU,3GLAGOLI,3HERU,3I,3INITIAL IZHE",
   "3IOTATED BIG YUS,4SMALL YUS,3IZHE,3IZHITSA,3KAKO,3LATINATE MYSLITE,3LJUDIJE,3MYSLITE,3NASHI",
   "3ONU,3OTU,3PE,3POKOJI,3RITSI,3SHA,3SHTA,3SHTAPIC,3SLOVO,3SMALL YUS,5WITH TAIL,3SPIDERY HA",
   "3TROKUTASTI A,3TSI,3TVRIDO,3UKU,3VEDE,3YATI,3YERI,3YERU,3YESTU,3YO,3YU,3ZEMLJA,3ZHIVETE",
   "1SMALL LETTER AZU,3BIG YUS,3BUKY,3CAUDATE CHRIVI,3CHRIVI,3DJERVI,3DOBRO,3DZELO,3FITA,3FRITU",
   "3GLAGOLI,3HERU,3I,3INITIAL IZHE,3IOTATED BIG YUS,4SMALL YUS,3IZHE,3IZHITSA,3KAKO",
   "3LATINATE MYSLITE,3LJUDIJE,3MYSLITE,3NASHI,3ONU,3OTU,3PE,3POKOJI,3RITSI,3SHA,3SHTA,3SHTAPIC",
   "3SLOVO,3SMALL YUS,5WITH TAIL,3SPIDERY HA,3TROKUTASTI A,3TSI,3TVRIDO,3UKU,3VEDE,3YATI,3YERI",
   "3YERU,3YESTU,3YO,3YU,3ZEMLJA,3ZHIVETE,0GLASS OF MILK,0GLEICH STARK,0GLOBE WITH MERIDIANS",
   "0GLOVES,0GLOWING STAR,0GOAL NET,0GOAT,0GOGGLES,0GOLFER,0GORILLA,0GOTHIC LETTER AHSA,2AIHVUS",
   "2BAIRKAN,2DAGS,2EIS,2FAIHU,2GIBA,2HAGL,2HWAIR,2IGGWS,2IUJA,2JER,2KUSMA,2LAGUS,2MANNA,2NAUTHS",
   "2NINE HUNDRED,2NINETY,2OTHAL,2PAIRTHRA,2QAIRTHRA,2RAIDA,2SAUIL,2TEIWS,2THIUTH,2URUS,2WINJA",
   "0GRADUATION CAP,0GRANTHA AU LENGTH MARK,1LETTER A,2AA,2AI,2AU,2BA,2BHA,2CA,2CHA,2DA,2DDA,2DDHA",
   "2DHA,2EE,2GA,2GHA,2HA,2I,2II,2JA,2JHA,2KA,2KHA,2LA,2LLA,2MA,2NA,2NGA,2NNA,2NYA,2OO,2PA,2PHA",
   "2RA,2SA,2SHA,2SSA,2TA,2THA,2TTA,2TTHA,2U,2UU,2VA,2VEDIC ANUSVARA,3DOUBLE ANUSVARA,2VOCALIC L",
   "3LL,3R,3RR,2YA,1OM,1SIGN ANUSVARA,2AVAGRAHA,2CANDRABINDU,2COMBINING ANUSVARA ABOVE,2NUKTA",
   "2PLUTA,2VIRAMA,2VISARGA,1VOWEL SIGN AA,3AI,3AU,3EE,3I,3II,3OO,3U,3UU,3VOCALIC L,4LL,4R,4RR",
   "0GRAPES,0GRAVE ACCENT,0GREATER-THAN ABOVE DOUBLE-LINE EQUAL ABOVE LESS-THAN",
   "2LESS-THAN ABOVE DOUBLE-LINE EQUAL,2RIGHTWARDS ARROW,2SIMILAR ABOVE LESS-THAN,3OR EQUAL",
   "2SLANTED EQUAL ABOVE LESS-THAN ABOVE SLANTED EQUAL,1AND NOT APPROXIMATE",
   "2SINGLE-LINE NOT EQUAL TO,1BESIDE LESS-THAN,1BUT NOT EQUAL TO,3EQUIVALENT TO,1CLOSED BY CURVE",
   "4ABOVE SLANTED EQUAL,1EQUAL TO OR LESS-THAN,1OR APPROXIMATE,2EQUAL TO,2EQUIVALENT TO",
   "2LESS-THAN,2SLANTED EQUAL TO,5WITH DOT ABOVE,8LEFT,7INSIDE,1OVER EQUAL TO",
   "1OVERLAPPING LESS-THAN,1SIGN,1WITH CIRCLE INSIDE,2DOT,2QUESTION MARK ABOVE",
   "0GREEK ACROPHONIC ATTIC FIFTY,4STATERS,4TALENTS,4THOUSAND,5STATERS,3FIVE,4HUNDRED,5STATERS",
   "5TALENTS,4STATERS,4TALENTS,4THOUSAND,5TALENTS,3ONE DRACHMA,4HALF,4HUNDRED STATERS,5TALENTS",
   "4QUARTER,4THOUSAND STATERS,5TALENTS,3TEN MNAS,4STATERS,4TALENTS,4THOUSAND STATERS",
   "2CARYSTIAN FIVE HUNDRED,2CYRENAIC TWO DRACHMAS,2DELPHIC FIVE MNAS,2EPIDAUREAN FIVE HUNDRED",
   "3TWO,4DRACHMAS,2HERAEUM ONE PLETHRON,2HERMIONIAN FIFTY,3ONE,3TEN,2MESSENIAN TEN",
   "2NAXIAN FIVE HUNDRED,2STRATIAN FIFTY MNAS,2THESPIAN FIFTY,3FIVE HUNDRED,4THOUSAND,3ONE",
   "4HUNDRED,4THOUSAND,3TEN,3THIRTY,3THREE HUNDRED,3TWO,2TROEZENIAN FIFTY,4ALTERNATE FORM,3FIVE",
   "4HUNDRED,3TEN,4ALTERNATE FORM,1ANO TELEIA,1AROURA SIGN,1ARTABE SIGN,1BETA SYMBOL",
   "1CAPITAL DOTTED LUNATE SIGMA SYMBOL,2KAI SYMBOL,2LETTER ALPHA,4WITH DASIA,6AND OXIA",
   "8AND PROSGEGRAMMENI,7PERISPOMENI,8AND PROSGEGRAMMENI,7PROSGEGRAMMENI,7VARIA",
   "8AND PROSGEGRAMMENI,5MACRON,5OXIA,5PROSGEGRAMMENI,5PSILI,6AND OXIA,8AND PROSGEGRAMMENI",
   "7PERISPOMENI,8AND PROSGEGRAMMENI,7PROSGEGRAMMENI,7VARIA,8AND PROSGEGRAMMENI,5TONOS,5VARIA",
   "5VRACHY,3ARCHAIC SAMPI,3BETA,3CHI,3DELTA,3EPSILON,4WITH DASIA,6AND OXIA,7VARIA,5OXIA,5PSILI",
   "6AND OXIA,7VARIA,5TONOS,5VARIA,3ETA,4WITH DASIA,6AND OXIA,8AND PROSGEGRAMMENI,7PERISPOMENI",
   "8AND PROSGEGRAMMENI,7PROSGEGRAMMENI,7VARIA,8AND PROSGEGRAMMENI,5OXIA,5PROSGEGRAMMENI,5PSILI",
   "6AND OXIA,8AND PROSGEGRAMMENI,7PERISPOMENI,8AND PROSGEGRAMMENI,7PROSGEGRAMMENI,7VARIA",
   "8AND PROSGEGRAMMENI,5TONOS,5VARIA,3GAMMA,3HETA,3IOTA,4WITH DASIA,6AND OXIA,7PERISPOMENI,7VARIA",
   "5DIALYTIKA,5MACRON,5OXIA,5PSILI,6AND OXIA,7PERISPOMENI,7VARIA,5TONOS,5VARIA,5VRACHY,3KAPPA",
   "3LAMDA,3MU,3NU,3OMEGA,4WITH DASIA,6AND OXIA,8AND PROSGEGRAMMENI,7PERISPOMENI",
   "8AND PROSGEGRAMMENI,7PROSGEGRAMMENI,7VARIA,8AND PROSGEGRAMMENI,5OXIA,5PROSGEGRAMMENI,5PSILI",
   "6AND OXIA,8AND PROSGEGRAMMENI,7PERISPOMENI,8AND PROSGEGRAMMENI,7PROSGEGRAMMENI,7VARIA",
   "8AND PROSGEGRAMMENI,5TONOS,5VARIA,3OMICRON,4WITH DASIA,6AND OXIA,7VARIA,5OXIA,5PSILI,6AND OXIA",
   "7VARIA,5TONOS,5VARIA,3PAMPHYLIAN DIGAMMA,3PHI,3PI,3PSI,3RHO,4WITH DASIA,3SAN,3SHO,3SIGMA,3TAU",
   "3THETA,3UPSILON,4WITH DASIA,6AND OXIA,7PERISPOMENI,7VARIA,5DIALYTIKA,5MACRON,5OXIA,5TONOS",
   "5VARIA,5VRACHY,3XI,3YOT,3ZETA,2LUNATE SIGMA SYMBOL,2REVERSED DOTTED LUNATE SIGMA SYMBOL",
   "3LUNATE SIGMA SYMBOL,2THETA SYMBOL,1DASIA,2AND OXIA,3PERISPOMENI,3VARIA,1DIALYTIKA AND OXIA",
   "3PERISPOMENI,3VARIA,2TONOS,1DRACHMA SIGN,1FIVE OBOLS SIGN,1FOUR OBOLS SIGN,1GRAMMA SIGN",
   "1INDICTION SIGN,1INSTRUMENTAL NOTATION SYMBOL-1,3SYMBOL-11,3SYMBOL-12,3SYMBOL-13,3SYMBOL-14",
   "3SYMBOL-17,3SYMBOL-18,3SYMBOL-19,3SYMBOL-2,3SYMBOL-23,3SYMBOL-24,3SYMBOL-25,3SYMBOL-26",
   "3SYMBOL-27,3SYMBOL-29,3SYMBOL-30,3SYMBOL-32,3SYMBOL-36,3SYMBOL-37,3SYMBOL-38,3SYMBOL-39",
   "3SYMBOL-4,3SYMBOL-40,3SYMBOL-42,3SYMBOL-43,3SYMBOL-45,3SYMBOL-47,3SYMBOL-48,3SYMBOL-49",
   "3SYMBOL-5,3SYMBOL-50,3SYMBOL-51,3SYMBOL-52,3SYMBOL-53,3SYMBOL-54,3SYMBOL-7,3SYMBOL-8",
   "1KAI SYMBOL,1KAPPA SYMBOL,1KORONIS,1KYATHOS BASE SIGN,1LETTER ARCHAIC KOPPA,2DIGAMMA,2KOPPA",
   "2SAMPI,2SMALL CAPITAL GAMMA,4LAMDA,4OMEGA,4PI,4PSI,4RHO,2STIGMA,2YOT,1LITRA SIGN",
   "1LOWER NUMERAL SIGN,1LUNATE EPSILON SYMBOL,2SIGMA SYMBOL,1METRETES SIGN,1MUSICAL LEIMMA",
   "1NUMERAL SIGN,1OBOL SIGN,1ONE HALF SIGN,4ALTERNATE FORM,2QUARTER SIGN,1OUNKIA SIGN,1OXIA",
   "1PERISPOMENI,1PHI SYMBOL,1PI SYMBOL,1PROSGEGRAMMENI,1PSILI,2AND OXIA,3PERISPOMENI,3VARIA",
   "1QUESTION MARK,1REVERSED LUNATE EPSILON SYMBOL,1RHO SYMBOL,2WITH STROKE SYMBOL,1SINUSOID SIGN",
   "1SMALL DOTTED LUNATE SIGMA SYMBOL,2LETTER ALPHA,4WITH DASIA,6AND OXIA,8AND YPOGEGRAMMENI",
   "7PERISPOMENI,8AND YPOGEGRAMMENI,7VARIA,8AND YPOGEGRAMMENI,7YPOGEGRAMMENI,5MACRON,5OXIA",
   "6AND YPOGEGRAMMENI,5PERISPOMENI,6AND YPOGEGRAMMENI,5PSILI,6AND OXIA,8AND YPOGEGRAMMENI",
   "7PERISPOMENI,8AND YPOGEGRAMMENI,7VARIA,8AND YPOGEGRAMMENI,7YPOGEGRAMMENI,5TONOS,5VARIA",
   "6AND YPOGEGRAMMENI,5VRACHY,5YPOGEGRAMMENI,3ARCHAIC KOPPA,4SAMPI,3BETA,3CHI,3DELTA,3DIGAMMA",
   "3EPSILON,4WITH DASIA,6AND OXIA,7VARIA,5OXIA,5PSILI,6AND OXIA,7VARIA,5TONOS,5VARIA,3ETA",
   "4WITH DASIA,6AND OXIA,8AND YPOGEGRAMMENI,7PERISPOMENI,8AND YPOGEGRAMMENI,7VARIA",
   "8AND YPOGEGRAMMENI,7YPOGEGRAMMENI,5OXIA,6AND YPOGEGRAMMENI,5PERISPOMENI,6AND YPOGEGRAMMENI",
   "5PSILI,6AND OXIA,8AND YPOGEGRAMMENI,7PERISPOMENI,8AND YPOGEGRAMMENI,7VARIA,8AND YPOGEGRAMMENI",
   "7YPOGEGRAMMENI,5TONOS,5VARIA,6AND YPOGEGRAMMENI,5YPOGEGRAMMENI,3FINAL SIGMA,3GAMMA,3HETA,3IOTA",
   "4WITH DASIA,6AND OXIA,7PERISPOMENI,7VARIA,5DIALYTIKA,6AND OXIA,7PERISPOMENI,7TONOS,7VARIA",
   "5MACRON,5OXIA,5PERISPOMENI,5PSILI,6AND OXIA,7PERISPOMENI,7VARIA,5TONOS,5VARIA,5VRACHY,3KAPPA",
   "3KOPPA,3LAMDA,3MU,3NU,3OMEGA,4WITH DASIA,6AND OXIA,8AND YPOGEGRAMMENI,7PERISPOMENI",
   "8AND YPOGEGRAMMENI,7VARIA,8AND YPOGEGRAMMENI,7YPOGEGRAMMENI,5OXIA,6AND YPOGEGRAMMENI",
   "5PERISPOMENI,6AND YPOGEGRAMMENI,5PSILI,6AND OXIA,8AND YPOGEGRAMMENI,7PERISPOMENI",
   "8AND YPOGEGRAMMENI,7VARIA,8AND YPOGEGRAMMENI,7YPOGEGRAMMENI,5TONOS,5VARIA,6AND YPOGEGRAMMENI",
   "5YPOGEGRAMMENI,3OMICRON,4WITH DASIA,6AND OXIA,7VARIA,5OXIA,5PSILI,6AND OXIA,7VARIA,5TONOS",
   "5VARIA,3PAMPHYLIAN DIGAMMA,3PHI,3PI,3PSI,3RHO,4WITH DASIA,5PSILI,3SAMPI,3SAN,3SHO,3SIGMA",
   "3STIGMA,3TAU,3THETA,3UPSILON,4WITH DASIA,6AND OXIA,7PERISPOMENI,7VARIA,5DIALYTIKA,6AND OXIA",
   "7PERISPOMENI,7TONOS,7VARIA,5MACRON,5OXIA,5PERISPOMENI,5PSILI,6AND OXIA,7PERISPOMENI,7VARIA",
   "5TONOS,5VARIA,5VRACHY,3XI,3ZETA,2REVERSED DOTTED LUNATE SIGMA SYMBOL,3LUNATE SIGMA SYMBOL",
   "1SUBSCRIPT SMALL LETTER BETA,4CHI,4GAMMA,4PHI,4RHO,1SYMBOL TAU RHO,1TALENT SIGN,1THETA SYMBOL",
   "1THREE OBOLS SIGN,2QUARTERS SIGN,1TONOS,1TRYBLION BASE SIGN,1TWO OBOLS SIGN,2THIRDS SIGN",
   "1UPSILON WITH ACUTE AND HOOK SYMBOL,3DIAERESIS AND HOOK SYMBOL,3HOOK SYMBOL,1VARIA",
   "1VOCAL NOTATION SYMBOL-1,3SYMBOL-10,3SYMBOL-11,3SYMBOL-12,3SYMBOL-13,3SYMBOL-14,3SYMBOL-15",
   "3SYMBOL-16,3SYMBOL-17,3SYMBOL-18,3SYMBOL-19,3SYMBOL-2,3SYMBOL-20,3SYMBOL-21,3SYMBOL-22",
   "3SYMBOL-23,3SYMBOL-24,3SYMBOL-3,3SYMBOL-4,3SYMBOL-5,3SYMBOL-50,3SYMBOL-51,3SYMBOL-52",
   "3SYMBOL-53,3SYMBOL-54,3SYMBOL-6,3SYMBOL-7,3SYMBOL-8,3SYMBOL-9,1XESTES SIGN,1YEAR SIGN",
   "1YPOGEGRAMMENI,1ZERO SIGN,0GREEN APPLE,1BOOK,1HEART,1SALAD,0GRIMACING FACE",
   "0GRINNING CAT FACE WITH SMILING EYES,1FACE,2WITH ONE LARGE AND ONE SMALL EYE,3SMILING EYES",
   "3STAR EYES,0GROUP MARK,1SEPARATOR,0GROWING HEART,0GS,0GUARANI SIGN,0GUARDSMAN,0GUIDE DOG",
   "0GUITAR,0GUJARATI ABBREVIATION SIGN,1DIGIT EIGHT,2FIVE,2FOUR,2NINE,2ONE,2SEVEN,2SIX,2THREE",
   "2TWO,2ZERO,1LETTER A,2AA,2AI,2AU,2BA,2BHA,2CA,2CHA,2DA,2DDA,2DDHA,2DHA,2E,2GA,2GHA,2HA,2I,2II",
   "2JA,2JHA,2KA,2KHA,2LA,2LLA,2MA,2NA,2NGA,2NNA,2NYA,2O,2PA,2PHA,2RA,2SA,2SHA,2SSA,2TA,2THA,2TTA",
   "2TTHA,2U,2UU,2VA,2VOCALIC L,3LL,3R,3RR,2YA,2ZHA,1OM,1RUPEE SIGN,1SIGN ANUSVARA,2AVAGRAHA",
   "2CANDRABINDU,2CIRCLE NUKTA ABOVE,2MADDAH,2NUKTA,2SHADDA,2SUKUN,2THREE-DOT NUKTA ABOVE",
   "2TWO-CIRCLE NUKTA ABOVE,2VIRAMA,2VISARGA,1VOWEL CANDRA E,3O,2SIGN AA,3AI,3AU,3CANDRA E,4O,3E",
   "3I,3II,3O,3U,3UU,3VOCALIC L,4LL,4R,4RR,0GUNJALA GONDI DIGIT EIGHT,3FIVE,3FOUR,3NINE,3ONE",
   "3SEVEN,3SIX,3THREE,3TWO,3ZERO,2LETTER A,3AA,3AI,3AU,3BA,3BHA,3CA,3CHA,3DA,3DDA,3DDHA,3DHA,3EE",
   "3GA,3GHA,3HA,3I,3II,3JA,3JHA,3KA,3KHA,3LA,3LLA,3MA,3NA,3NGA,3OO,3PA,3PHA,3RA,3SA,3TA,3THA,3TTA",
   "3TTHA,3U,3UU,3VA,3YA,2OM,2SIGN ANUSVARA,3VISARGA,2VIRAMA,2VOWEL SIGN AA,4AI,4AU,4EE,4I,4II,4OO",
   "4U,4UU,0GURMUKHI ABBREVIATION SIGN,1ADDAK,1DIGIT EIGHT,2FIVE,2FOUR,2NINE,2ONE,2SEVEN,2SIX",
   "2THREE,2TWO,2ZERO,1EK ONKAR,1IRI,1LETTER A,2AA,2AI,2AU,2BA,2BHA,2CA,2CHA,2DA,2DDA,2DDHA,2DHA",
   "2EE,2FA,2GA,2GHA,2GHHA,2HA,2I,2II,2JA,2JHA,2KA,2KHA,2KHHA,2LA,2LLA,2MA,2NA,2NGA,2NNA,2NYA,2OO",
   "2PA,2PHA,2RA,2RRA,2SA,2SHA,2TA,2THA,2TTA,2TTHA,2U,2UU,2VA,2YA,2ZA,1SIGN ADAK BINDI,2BINDI",
   "2NUKTA,2UDAAT,2VIRAMA,2VISARGA,2YAKASH,1TIPPI,1URA,1VOWEL SIGN AA,3AI,3AU,3EE,3I,3II,3OO,3U",
   "3UU,0HADES,0HAIR SPACE,0HAIRCUT,0HALFWIDTH BLACK SQUARE,1DOWNWARDS ARROW,1FORMS LIGHT VERTICAL",
   "1HANGUL FILLER,2LETTER A,3AE,3CHIEUCH,3CIEUC,3E,3EO,3EU,3HIEUH,3I,3IEUNG,3KHIEUKH,3KIYEOK",
   "3KIYEOK-SIOS,3MIEUM,3NIEUN,3NIEUN-CIEUC,3NIEUN-HIEUH,3O,3OE,3PHIEUPH,3PIEUP,3PIEUP-SIOS,3RIEUL",
   "3RIEUL-HIEUH,3RIEUL-KIYEOK,3RIEUL-MIEUM,3RIEUL-PHIEUPH,3RIEUL-PIEUP,3RIEUL-SIOS,3RIEUL-THIEUTH",
   "3SIOS,3SSANGCIEUC,3SSANGKIYEOK,3SSANGPIEUP,3SSANGSIOS,3SSANGTIKEUT,3THIEUTH,3TIKEUT,3U,3WA",
   "3WAE,3WE,3WEO,3WI,3YA,3YAE,3YE,3YEO,3YI,3YO,3YU,1IDEOGRAPHIC COMMA,2FULL STOP",
   "1KATAKANA LETTER A,3E,3HA,3HE,3HI,3HO,3HU,3I,3KA,3KE,3KI,3KO,3KU,3MA,3ME,3MI,3MO,3MU,3N,3NA",
   "3NE,3NI,3NO,3NU,3O,3RA,3RE,3RI,3RO,3RU,3SA,3SE,3SI,3SMALL A,4E,4I,4O,4TU,4U,4YA,4YO,4YU,3SO",
   "3SU,3TA,3TE,3TI,3TO,3TU,3U,3WA,3WO,3YA,3YO,3YU,2MIDDLE DOT,2SEMI-VOICED SOUND MARK",
   "2VOICED SOUND MARK,1KATAKANA-HIRAGANA PROLONGED SOUND MARK,1LEFT CORNER BRACKET",
   "1LEFTWARDS ARROW,1RIGHT CORNER BRACKET,1RIGHTWARDS ARROW,1UPWARDS ARROW,1WHITE CIRCLE",
   "0HAMBURGER,0HAMMER,1AND PICK,2SICKLE,2WRENCH,0HAMSA,0HAMSTER FACE",
   "0HAND WITH INDEX AND MIDDLE FINGERS CROSSED,3FINGER AND THUMB CROSSED,0HANDBAG,0HANDBALL",
   "0HANDSHAKE,0HANGUL CHOSEONG CEONGCHIEUMCHIEUCH,2CEONGCHIEUMCIEUC,2CEONGCHIEUMSIOS",
   "2CEONGCHIEUMSSANGCIEUC,2CEONGCHIEUMSSANGSIOS,2CHIEUCH,2CHIEUCH-HIEUH,2CHIEUCH-KHIEUKH",
   "2CHITUEUMCHIEUCH,2CHITUEUMCIEUC,2CHITUEUMSIOS,2CHITUEUMSSANGCIEUC,2CHITUEUMSSANGSIOS,2CIEUC",
   "2CIEUC-IEUNG,2FILLER,2HIEUH,2HIEUH-SIOS,2IEUNG,2IEUNG-CHIEUCH,2IEUNG-CIEUC,2IEUNG-HIEUH",
   "2IEUNG-KIYEOK,2IEUNG-MIEUM,2IEUNG-PANSIOS,2IEUNG-PHIEUPH,2IEUNG-PIEUP,2IEUNG-RIEUL,2IEUNG-SIOS",
   "2IEUNG-THIEUTH,2IEUNG-TIKEUT,2KAPYEOUNMIEUM,2KAPYEOUNPHIEUPH,2KAPYEOUNPIEUP,2KAPYEOUNRIEUL",
   "2KAPYEOUNSSANGPIEUP,2KHIEUKH,2KIYEOK,2KIYEOK-TIKEUT,2MIEUM,2MIEUM-KIYEOK,2MIEUM-PIEUP",
   "2MIEUM-SIOS,2MIEUM-TIKEUT,2NIEUN,2NIEUN-CIEUC,2NIEUN-HIEUH,2NIEUN-KIYEOK,2NIEUN-PIEUP",
   "2NIEUN-SIOS,2NIEUN-TIKEUT,2PANSIOS,2PHIEUPH,2PHIEUPH-HIEUH,2PHIEUPH-PIEUP,2PIEUP",
   "2PIEUP-CHIEUCH,2PIEUP-CIEUC,2PIEUP-HIEUH,2PIEUP-KHIEUKH,2PIEUP-KIYEOK,2PIEUP-NIEUN",
   "2PIEUP-PHIEUPH,2PIEUP-SIOS,2PIEUP-SIOS-CIEUC,2PIEUP-SIOS-KIYEOK,2PIEUP-SIOS-PIEUP",
   "2PIEUP-SIOS-THIEUTH,2PIEUP-SIOS-TIKEUT,2PIEUP-SSANGSIOS,2PIEUP-THIEUTH,2PIEUP-TIKEUT,2RIEUL",
   "2RIEUL-CIEUC,2RIEUL-HIEUH,2RIEUL-KAPYEOUNPIEUP,2RIEUL-KHIEUKH,2RIEUL-KIYEOK,2RIEUL-MIEUM",
   "2RIEUL-NIEUN,2RIEUL-PIEUP,2RIEUL-SIOS,2RIEUL-SSANGKIYEOK,2RIEUL-SSANGPIEUP,2RIEUL-SSANGTIKEUT",
   "2RIEUL-TIKEUT,2SIOS,2SIOS-CHIEUCH,2SIOS-CIEUC,2SIOS-HIEUH,2SIOS-IEUNG,2SIOS-KHIEUKH",
   "2SIOS-KIYEOK,2SIOS-MIEUM,2SIOS-NIEUN,2SIOS-PHIEUPH,2SIOS-PIEUP,2SIOS-PIEUP-KIYEOK,2SIOS-RIEUL",
   "2SIOS-SSANGSIOS,2SIOS-THIEUTH,2SIOS-TIKEUT,2SSANGCIEUC,2SSANGCIEUC-HIEUH,2SSANGHIEUH",
   "2SSANGIEUNG,2SSANGKIYEOK,2SSANGNIEUN,2SSANGPIEUP,2SSANGRIEUL,2SSANGSIOS,2SSANGSIOS-PIEUP",
   "2SSANGTHIEUTH,2SSANGTIKEUT,2SSANGYEORINHIEUH,2THIEUTH,2TIKEUT,2TIKEUT-CIEUC,2TIKEUT-KIYEOK",
   "2TIKEUT-MIEUM,2TIKEUT-PIEUP,2TIKEUT-RIEUL,2TIKEUT-SIOS,2YEORINHIEUH,2YESIEUNG",
   "1DOUBLE DOT TONE MARK,1FILLER,1JONGSEONG CHIEUCH,2CIEUC,2CIEUC-PIEUP,2CIEUC-SSANGPIEUP,2HIEUH",
   "2HIEUH-MIEUM,2HIEUH-NIEUN,2HIEUH-PIEUP,2HIEUH-RIEUL,2IEUNG,2IEUNG-KHIEUKH,2IEUNG-KIYEOK",
   "2IEUNG-SSANGKIYEOK,2KAPYEOUNMIEUM,2KAPYEOUNPHIEUPH,2KAPYEOUNPIEUP,2KAPYEOUNRIEUL,2KHIEUKH",
   "2KIYEOK,2KIYEOK-CHIEUCH,2KIYEOK-HIEUH,2KIYEOK-KHIEUKH,2KIYEOK-NIEUN,2KIYEOK-PIEUP",
   "2KIYEOK-RIEUL,2KIYEOK-SIOS,2KIYEOK-SIOS-KIYEOK,2MIEUM,2MIEUM-CHIEUCH,2MIEUM-CIEUC,2MIEUM-HIEUH",
   "2MIEUM-KIYEOK,2MIEUM-NIEUN,2MIEUM-PANSIOS,2MIEUM-PIEUP,2MIEUM-PIEUP-SIOS,2MIEUM-RIEUL",
   "2MIEUM-SIOS,2MIEUM-SSANGNIEUN,2MIEUM-SSANGSIOS,2NIEUN,2NIEUN-CHIEUCH,2NIEUN-CIEUC,2NIEUN-HIEUH",
   "2NIEUN-KIYEOK,2NIEUN-PANSIOS,2NIEUN-RIEUL,2NIEUN-SIOS,2NIEUN-THIEUTH,2NIEUN-TIKEUT,2PANSIOS",
   "2PANSIOS-KAPYEOUNPIEUP,2PANSIOS-PIEUP,2PHIEUPH,2PHIEUPH-PIEUP,2PHIEUPH-SIOS,2PHIEUPH-THIEUTH",
   "2PIEUP,2PIEUP-CHIEUCH,2PIEUP-CIEUC,2PIEUP-HIEUH,2PIEUP-MIEUM,2PIEUP-PHIEUPH,2PIEUP-RIEUL",
   "2PIEUP-RIEUL-PHIEUPH,2PIEUP-SIOS,2PIEUP-SIOS-TIKEUT,2PIEUP-TIKEUT,2RIEUL,2RIEUL-HIEUH",
   "2RIEUL-KAPYEOUNPIEUP,2RIEUL-KHIEUKH,2RIEUL-KIYEOK,2RIEUL-KIYEOK-HIEUH,2RIEUL-KIYEOK-SIOS",
   "2RIEUL-MIEUM,2RIEUL-MIEUM-HIEUH,2RIEUL-MIEUM-KIYEOK,2RIEUL-MIEUM-SIOS,2RIEUL-NIEUN",
   "2RIEUL-PANSIOS,2RIEUL-PHIEUPH,2RIEUL-PIEUP,2RIEUL-PIEUP-HIEUH,2RIEUL-PIEUP-PHIEUPH",
   "2RIEUL-PIEUP-SIOS,2RIEUL-PIEUP-TIKEUT,2RIEUL-SIOS,2RIEUL-SSANGKIYEOK,2RIEUL-SSANGSIOS",
   "2RIEUL-THIEUTH,2RIEUL-TIKEUT,2RIEUL-TIKEUT-HIEUH,2RIEUL-YEORINHIEUH,2RIEUL-YEORINHIEUH-HIEUH",
   "2RIEUL-YESIEUNG,2SIOS,2SIOS-CHIEUCH,2SIOS-CIEUC,2SIOS-HIEUH,2SIOS-KAPYEOUNPIEUP,2SIOS-KIYEOK",
   "2SIOS-MIEUM,2SIOS-PANSIOS,2SIOS-PIEUP,2SIOS-RIEUL,2SIOS-THIEUTH,2SIOS-TIKEUT,2SSANGCIEUC",
   "2SSANGIEUNG,2SSANGKIYEOK,2SSANGMIEUM,2SSANGNIEUN,2SSANGPIEUP,2SSANGRIEUL,2SSANGRIEUL-KHIEUKH",
   "2SSANGSIOS,2SSANGSIOS-KIYEOK,2SSANGSIOS-TIKEUT,2SSANGTIKEUT,2SSANGTIKEUT-PIEUP,2SSANGYESIEUNG",
   "2THIEUTH,2TIKEUT,2TIKEUT-CHIEUCH,2TIKEUT-CIEUC,2TIKEUT-KIYEOK,2TIKEUT-PIEUP,2TIKEUT-RIEUL",
   "2TIKEUT-SIOS,2TIKEUT-SIOS-KIYEOK,2TIKEUT-THIEUTH,2YEORINHIEUH,2YESIEUNG,2YESIEUNG-HIEUH",
   "2YESIEUNG-KHIEUKH,2YESIEUNG-KIYEOK,2YESIEUNG-MIEUM,2YESIEUNG-PANSIOS,2YESIEUNG-SIOS",
   "2YESIEUNG-SSANGKIYEOK,1JUNGSEONG A,2A-EU,2A-O,2A-U,2AE,2ARAEA,2ARAEA-A,2ARAEA-E,2ARAEA-EO",
   "2ARAEA-I,2ARAEA-U,2E,2EO,2EO-EU,2EO-O,2EO-U,2EU,2EU-A,2EU-E,2EU-EO,2EU-EU,2EU-O,2EU-U,2FILLER",
   "2I,2I-A,2I-ARAEA,2I-EU,2I-I,2I-O,2I-O-I,2I-U,2I-YA,2I-YA-O,2I-YAE,2I-YE,2I-YEO,2I-YO,2I-YU,2O",
   "2O-E,2O-EO,2O-O,2O-O-I,2O-U,2O-YA,2O-YAE,2O-YE,2O-YEO,2OE,2SSANGARAEA,2U,2U-A,2U-AE,2U-EO-EU",
   "2U-I-I,2U-U,2U-YE,2U-YEO,2WA,2WAE,2WE,2WEO,2WI,2YA,2YA-O,2YA-U,2YA-YO,2YAE,2YE,2YEO,2YEO-O",
   "2YEO-U,2YEO-YA,2YI,2YI-U,2YO,2YO-A,2YO-AE,2YO-EO,2YO-I,2YO-O,2YO-YA,2YO-YAE,2YO-YEO,2YU,2YU-A",
   "2YU-AE,2YU-E,2YU-EO,2YU-I,2YU-O,2YU-U,2YU-YE,2YU-YEO,1LETTER A,2AE,2ARAEA,2ARAEAE,2CHIEUCH",
   "2CIEUC,2E,2EO,2EU,2HIEUH,2I,2IEUNG,2KAPYEOUNMIEUM,2KAPYEOUNPHIEUPH,2KAPYEOUNPIEUP",
   "2KAPYEOUNSSANGPIEUP,2KHIEUKH,2KIYEOK,2KIYEOK-SIOS,2MIEUM,2MIEUM-PANSIOS,2MIEUM-PIEUP",
   "2MIEUM-SIOS,2NIEUN,2NIEUN-CIEUC,2NIEUN-HIEUH,2NIEUN-PANSIOS,2NIEUN-SIOS,2NIEUN-TIKEUT,2O,2OE",
   "2PANSIOS,2PHIEUPH,2PIEUP,2PIEUP-CIEUC,2PIEUP-KIYEOK,2PIEUP-SIOS,2PIEUP-SIOS-KIYEOK",
   "2PIEUP-SIOS-TIKEUT,2PIEUP-THIEUTH,2PIEUP-TIKEUT,2RIEUL,2RIEUL-HIEUH,2RIEUL-KIYEOK",
   "2RIEUL-KIYEOK-SIOS,2RIEUL-MIEUM,2RIEUL-PANSIOS,2RIEUL-PHIEUPH,2RIEUL-PIEUP,2RIEUL-PIEUP-SIOS",
   "2RIEUL-SIOS,2RIEUL-THIEUTH,2RIEUL-TIKEUT,2RIEUL-YEORINHIEUH,2SIOS,2SIOS-CIEUC,2SIOS-KIYEOK",
   "2SIOS-NIEUN,2SIOS-PIEUP,2SIOS-TIKEUT,2SSANGCIEUC,2SSANGHIEUH,2SSANGIEUNG,2SSANGKIYEOK",
   "2SSANGNIEUN,2SSANGPIEUP,2SSANGSIOS,2SSANGTIKEUT,2THIEUTH,2TIKEUT,2U,2WA,2WAE,2WE,2WEO,2WI,2YA",
   "2YAE,2YE,2YEO,2YEORINHIEUH,2YESIEUNG,2YESIEUNG-PANSIOS,2YESIEUNG-SIOS,2YI,2YO,2YO-I,2YO-YA",
   "2YO-YAE,2YU,2YU-I,2YU-YE,2YU-YEO,1SINGLE DOT TONE MARK,0HANGZHOU NUMERAL EIGHT,2FIVE,2FOUR",
   "2NINE,2ONE,2SEVEN,2SIX,2TEN,2THIRTY,2THREE,2TWENTY,2TWO,0HANIFI ROHINGYA DIGIT EIGHT,3FIVE",
   "3FOUR,3NINE,3ONE,3SEVEN,3SIX,3THREE,3TWO,3ZERO,2LETTER A,3BA,3CA,3DA,3DDA,3FA,3GA,3HA,3JA,3KA",
   "3KHA,3KINNA WA,4YA,3LA,3MA,3NA,3NGA,3NYA,3PA,3RA,3RRA,3SA,3SHA,3TA,3TTA,3VA,3WA,3YA,3ZA",
   "2MARK NA KHONNA,3SAKIN,2SIGN HARBAHAY,3TAHALA,3TANA,3TASSI,2VOWEL A,3E,3I,3O,3U",
   "0HANUNOO LETTER A,2BA,2DA,2GA,2HA,2I,2KA,2LA,2MA,2NA,2NGA,2PA,2RA,2SA,2TA,2U,2WA,2YA",
   "1SIGN PAMUDPOD,1VOWEL SIGN I,3U,0HAPPY PERSON RAISING ONE HAND,0HARD DISK,0HATCHING CHICK",
   "0HATRAN LETTER ALEPH,2AYN,2BETH,2DALETH-RESH,2GIMEL,2HE,2HETH,2KAPH,2LAMEDH,2MEM,2NUN,2PE",
   "2QOPH,2SADHE,2SAMEKH,2SHIN,2TAW,2TETH,2WAW,2YODH,2ZAYN,1NUMBER FIVE,2ONE,3HUNDRED,2TEN,2TWENTY",
   "0HEADPHONE,0HEADSTONE,1GRAVEYARD SYMBOL,0HEAR-NO-EVIL MONKEY,0HEART DECORATION,1HANDS",
   "1WITH ARROW,2RIBBON,2TIP ON THE LEFT,0HEAVY AMPERSAND ORNAMENT,1ARROW SHAFT WIDTH ONE,5HALF",
   "5THIRD,4TWO THIRDS,1ASTERISK,1BALLOT X,1BLACK CURVED DOWNWARDS AND RIGHTWARDS ARROW",
   "3UPWARDS AND RIGHTWARDS ARROW,2HEART,1BLACK-FEATHERED NORTH EAST ARROW,2RIGHTWARDS ARROW",
   "2SOUTH EAST ARROW,1CHECK MARK,1CHEVRON SNOWFLAKE,1CIRCLE,2WITH CIRCLE INSIDE",
   "3STROKE AND TWO DOTS ABOVE,1CIRCLED SALTIRE,1CONCAVE-POINTED BLACK RIGHTWARDS ARROW",
   "1DASHED TRIANGLE-HEADED RIGHTWARDS ARROW,1DIVISION SIGN,1DOLLAR SIGN",
   "1DOUBLE COMMA QUOTATION MARK ORNAMENT,2TURNED COMMA QUOTATION MARK ORNAMENT",
   "1DOWNWARDS ARROW WITH EQUILATERAL ARROWHEAD,4LARGE EQUILATERAL ARROWHEAD",
   "1EIGHT POINTED BLACK STAR,3PINWHEEL STAR,3RECTILINEAR BLACK STAR,2SPOKED ASTERISK",
   "2TEARDROP-SPOKED PROPELLER ASTERISK,1EQUALS SIGN,1EXCLAMATION MARK ORNAMENT,3SYMBOL",
   "1FIVE POINTED BLACK STAR,2SPOKED ASTERISK,1FOUR BALLOON-SPOKED ASTERISK,1GREEK CROSS",
   "1HEART EXCLAMATION MARK ORNAMENT,1HORIZONTAL FILL,1INTERROBANG ORNAMENT,1LARGE CIRCLE",
   "1LATIN CROSS,1LEFT-POINTING ANGLE BRACKET ORNAMENT,3QUOTATION MARK ORNAMENT",
   "1LEFTWARDS ARROW WITH EQUILATERAL ARROWHEAD,4LARGE EQUILATERAL ARROWHEAD",
   "1LIGATURE OPEN ET ORNAMENT,1LOW DOUBLE COMMA QUOTATION MARK ORNAMENT",
   "2SINGLE COMMA QUOTATION MARK ORNAMENT,1LOWER RIGHT-SHADOWED WHITE RIGHTWARDS ARROW,1MINUS SIGN",
   "1MULTIPLICATION X,1NORTH EAST ARROW,3POINTING BUD,4VINE LEAF,2WEST POINTING BUD,4VINE LEAF",
   "1OPEN CENTRE CROSS,1OUTLINED BLACK STAR,1OVAL WITH OVAL INSIDE,1PLUS SIGN",
   "1RIGHT-POINTING ANGLE BRACKET ORNAMENT,3QUOTATION MARK ORNAMENT,1RIGHTWARDS ARROW",
   "3WITH EQUILATERAL ARROWHEAD,4LARGE EQUILATERAL ARROWHEAD,1ROUND-TIPPED RIGHTWARDS ARROW",
   "1SALTIRE,1SANS-SERIF INTERROBANG ORNAMENT,1SCRIPT LIGATURE ET ORNAMENT",
   "1SINGLE COMMA QUOTATION MARK ORNAMENT,2TURNED COMMA QUOTATION MARK ORNAMENT",
   "1SIX POINTED BLACK STAR,2SPOKED ASTERISK,1SOUTH EAST ARROW,3POINTING BUD,4VINE LEAF",
   "2WEST POINTING BUD,4VINE LEAF,1SPARKLE,1TEARDROP-SHANKED RIGHTWARDS ARROW",
   "1TEARDROP-SPOKED ASTERISK,2PINWHEEL ASTERISK,1TRIANGLE-HEADED RIGHTWARDS ARROW",
   "1TWELVE POINTED BLACK STAR,3PINWHEEL STAR,1UPPER RIGHT-SHADOWED WHITE RIGHTWARDS ARROW",
   "1UPWARDS ARROW WITH EQUILATERAL ARROWHEAD,4LARGE EQUILATERAL ARROWHEAD,1VERTICAL BAR",
   "1WEDGE-TAILED RIGHTWARDS ARROW,1WHITE CIRCLE,2DOWN-POINTING TRIANGLE,2SQUARE",
   "1WIDE-HEADED RIGHTWARDS ARROW,0HEBREW ACCENT ATNAH HAFUKH,2DARGA,2DEHI,2ETNAHTA,2GERESH",
   "3MUQDAM,2GERSHAYIM,2ILUY,2MAHAPAKH,2MERKHA,3KEFULA,2MUNAH,2OLE,2PASHTA,2PAZER,2QADMA",
   "2QARNEY PARA,2REVIA,2SEGOL,2SHALSHELET,2TELISHA GEDOLA,3QETANA,2TEVIR,2TIPEHA,2YERAH BEN YOMO",
   "2YETIV,2ZAQEF GADOL,3QATAN,2ZARQA,2ZINOR,1LETTER ALEF,3WITH MAPIQ,4PATAH,4QAMATS",
   "2ALTERNATIVE AYIN,3PLUS SIGN,2AYIN,2BET,3WITH DAGESH,4RAFE,2DALET,3WITH DAGESH,2FINAL KAF",
   "4WITH DAGESH,3MEM,3NUN,3PE,4WITH DAGESH,3TSADI,2GIMEL,3WITH DAGESH,2HE,3WITH MAPIQ,2HET,2KAF",
   "3WITH DAGESH,4RAFE,2LAMED,3WITH DAGESH,2MEM,3WITH DAGESH,2NUN,3WITH DAGESH,2PE,3WITH DAGESH",
   "4RAFE,2QOF,3WITH DAGESH,2RESH,3WITH DAGESH,2SAMEKH,3WITH DAGESH,2SHIN,3WITH DAGESH",
   "5AND SHIN DOT,6SIN DOT,4SHIN DOT,4SIN DOT,2TAV,3WITH DAGESH,2TET,3WITH DAGESH,2TSADI",
   "3WITH DAGESH,2VAV,3WITH DAGESH,4HOLAM,2WIDE ALEF,3DALET,3FINAL MEM,3HE,3KAF,3LAMED,3RESH,3TAV",
   "2YOD,3WITH DAGESH,4HIRIQ,2ZAYIN,3WITH DAGESH,1LIGATURE ALEF LAMED,2YIDDISH DOUBLE VAV,4YOD",
   "3VAV YOD,3YOD YOD PATAH,1MARK LOWER DOT,2MASORA CIRCLE,2UPPER DOT,1POINT DAGESH OR MAPIQ",
   "2HATAF PATAH,3QAMATS,3SEGOL,2HIRIQ,2HOLAM,3HASER FOR VAV,2JUDEO-SPANISH VARIKA,2METEG,2PATAH",
   "2QAMATS,3QATAN,2QUBUTS,2RAFE,2SEGOL,2SHEVA,2SHIN DOT,2SIN DOT,2TSERE,1PUNCTUATION GERESH",
   "2GERSHAYIM,2MAQAF,2NUN HAFUKHA,2PASEQ,2SOF PASUQ,1YOD TRIANGLE,0HEDGEHOG,0HELICOPTER",
   "0HELLSCHREIBER PAUSE SYMBOL,0HELM SYMBOL,0HELMET WITH WHITE CROSS,0HENTAIGANA LETTER A-1,2A-2",
   "2A-3,2A-WO,2E-1,2E-2,2E-3,2E-4,2E-5,2E-6,2HA-1,2HA-10,2HA-11,2HA-2,2HA-3,2HA-4,2HA-5,2HA-6",
   "2HA-7,2HA-8,2HA-9,2HE-1,2HE-2,2HE-3,2HE-4,2HE-5,2HE-6,2HE-7,2HI-1,2HI-2,2HI-3,2HI-4,2HI-5",
   "2HI-6,2HI-7,2HO-1,2HO-2,2HO-3,2HO-4,2HO-5,2HO-6,2HO-7,2HO-8,2HU-1,2HU-2,2HU-3,2I-1,2I-2,2I-3",
   "2I-4,2KA-1,2KA-10,2KA-11,2KA-2,2KA-3,2KA-4,2KA-5,2KA-6,2KA-7,2KA-8,2KA-9,2KA-KE,2KE-1,2KE-2",
   "2KE-3,2KE-4,2KE-5,2KE-6,2KI-1,2KI-2,2KI-3,2KI-4,2KI-5,2KI-6,2KI-7,2KI-8,2KO-1,2KO-2,2KO-3",
   "2KO-KI,2KU-1,2KU-2,2KU-3,2KU-4,2KU-5,2KU-6,2KU-7,2MA-1,2MA-2,2MA-3,2MA-4,2MA-5,2MA-6,2MA-7",
   "2ME-1,2ME-2,2ME-MA,2MI-1,2MI-2,2MI-3,2MI-4,2MI-5,2MI-6,2MI-7,2MO-1,2MO-2,2MO-3,2MO-4,2MO-5",
   "2MO-6,2MU-1,2MU-2,2MU-3,2MU-4,2N-MU-MO-1,2N-MU-MO-2,2NA-1,2NA-2,2NA-3,2NA-4,2NA-5,2NA-6,2NA-7",
   "2NA-8,2NA-9,2NE-1,2NE-2,2NE-3,2NE-4,2NE-5,2NE-6,2NE-KO,2NI-1,2NI-2,2NI-3,2NI-4,2NI-5,2NI-6",
   "2NI-7,2NI-TE,2NO-1,2NO-2,2NO-3,2NO-4,2NO-5,2NU-1,2NU-2,2NU-3,2O-1,2O-2,2O-3,2RA-1,2RA-2,2RA-3",
   "2RA-4,2RE-1,2RE-2,2RE-3,2RE-4,2RI-1,2RI-2,2RI-3,2RI-4,2RI-5,2RI-6,2RI-7,2RO-1,2RO-2,2RO-3",
   "2RO-4,2RO-5,2RO-6,2RU-1,2RU-2,2RU-3,2RU-4,2RU-5,2RU-6,2SA-1,2SA-2,2SA-3,2SA-4,2SA-5,2SA-6",
   "2SA-7,2SA-8,2SE-1,2SE-2,2SE-3,2SE-4,2SE-5,2SI-1,2SI-2,2SI-3,2SI-4,2SI-5,2SI-6,2SO-1,2SO-2",
   "2SO-3,2SO-4,2SO-5,2SO-6,2SO-7,2SU-1,2SU-2,2SU-3,2SU-4,2SU-5,2SU-6,2SU-7,2SU-8,2TA-1,2TA-2",
   "2TA-3,2TA-4,2TE-1,2TE-2,2TE-3,2TE-4,2TE-5,2TE-6,2TE-7,2TE-8,2TE-9,2TI-1,2TI-2,2TI-3,2TI-4",
   "2TI-5,2TI-6,2TI-7,2TO-1,2TO-2,2TO-3,2TO-4,2TO-5,2TO-6,2TO-RA,2TU-1,2TU-2,2TU-3,2TU-4,2TU-TO",
   "2U-1,2U-2,2U-3,2U-4,2U-5,2WA-1,2WA-2,2WA-3,2WA-4,2WA-5,2WE-1,2WE-2,2WE-3,2WE-4,2WI-1,2WI-2",
   "2WI-3,2WI-4,2WI-5,2WO-1,2WO-2,2WO-3,2WO-4,2WO-5,2WO-6,2WO-7,2YA-1,2YA-2,2YA-3,2YA-4,2YA-5",
   "2YA-YO,2YO-1,2YO-2,2YO-3,2YO-4,2YO-5,2YO-6,2YU-1,2YU-2,2YU-3,2YU-4,0HERB",
   "0HERMITIAN CONJUGATE MATRIX,0HEXAGRAM FOR ABUNDANCE,2AFTER COMPLETION,2APPROACH",
   "2BEFORE COMPLETION,2BITING THROUGH,2BREAKTHROUGH,2COMING TO MEET,2CONFLICT,2CONTEMPLATION",
   "2DARKENING OF THE LIGHT,2DECREASE,2DELIVERANCE,2DEVELOPMENT,2DIFFICULTY AT THE BEGINNING",
   "2DISPERSION,2DURATION,2ENTHUSIASM,2FELLOWSHIP,2FOLLOWING,2GATHERING TOGETHER,2GRACE",
   "2GREAT POSSESSION,3POWER,3PREPONDERANCE,3TAMING,2HOLDING TOGETHER,2INCREASE,2INFLUENCE",
   "2INNER TRUTH,2INNOCENCE,2LIMITATION,2MODESTY,2MOUTH CORNERS,2OBSTRUCTION,2OPPOSITION",
   "2OPPRESSION,2PEACE,2PROGRESS,2PUSHING UPWARD,2RETREAT,2RETURN,2REVOLUTION,2SMALL PREPONDERANCE",
   "3TAMING,2SPLITTING APART,2STANDSTILL,2THE ABYSMAL WATER,3ARMY,3AROUSING THUNDER,3CAULDRON",
   "3CLINGING FIRE,3CREATIVE HEAVEN,3FAMILY,3GENTLE WIND,3JOYOUS LAKE,3KEEPING STILL MOUNTAIN",
   "3MARRYING MAIDEN,3RECEPTIVE EARTH,3WANDERER,3WELL,2TREADING,2WAITING,2WORK ON THE DECAYED",
   "2YOUTHFUL FOLLY,0HIBISCUS,0HIGH BRIGHTNESS SYMBOL,1OCTET PRESET,1VOLTAGE SIGN",
   "0HIGH-HEELED SHOE,0HIGH-SPEED TRAIN,2WITH BULLET NOSE,0HIKING BOOT,0HINDU TEMPLE,0HIPPOPOTAMUS",
   "0HIRAGANA DIGRAPH YORI,1ITERATION MARK,1LETTER A,2ARCHAIC WU,3YE,2BA,2BE,2BI,2BO,2BU,2DA,2DE",
   "2DI,2DO,2DU,2E,2GA,2GE,2GI,2GO,2GU,2HA,2HE,2HI,2HO,2HU,2I,2KA,2KE,2KI,2KO,2KU,2MA,2ME,2MI,2MO",
   "2MU,2N,2NA,2NE,2NI,2NO,2NU,2O,2PA,2PE,2PI,2PO,2PU,2RA,2RE,2RI,2RO,2RU,2SA,2SE,2SI,2SMALL A,3E",
   "3I,3KA,3KE,3O,3TU,3U,3WA,3WE,3WI,3WO,3YA,3YO,3YU,2SO,2SU,2TA,2TE,2TI,2TO,2TU,2U,2VU,2WA,2WE",
   "2WI,2WO,2YA,2YO,2YU,2ZA,2ZE,2ZI,2ZO,2ZU,1VOICED ITERATION MARK,0HISTORIC SITE,0HOCHO,0HOLE",
   "0HOLLOW QUILT SQUARE ORNAMENT,4IN BLACK SQUARE,0HOMOTHETIC,0HONEY POT,0HONEYBEE,0HOOK,0HOP",
   "0HORIZONTAL BAR,1BLACK HEXAGON,2OCTAGON,1ELLIPSIS,1LINE EXTENSION,1MALE WITH STROKE SIGN",
   "1ONE EIGHTH BLOCK-1358,3BLOCK-2,3BLOCK-3,3BLOCK-4,3BLOCK-5,3BLOCK-6,3BLOCK-7,1SCAN LINE-1",
   "2LINE-3,2LINE-7,2LINE-9,1TAB KEY,1TABULATION,2SET,2WITH JUSTIFICATION,1TRAFFIC LIGHT,0HORSE",
   "1FACE,1RACING,0HOSPITAL,0HOT BEVERAGE,1DOG,1PEPPER,1SPRINGS,0HOTEL,0HOURGLASS",
   "1WITH FLOWING SAND,0HOUSE,1BUILDING,1BUILDINGS,1WITH GARDEN,0HRYVNIA SIGN,0HT,0HTJ,0HTS",
   "0HUGGING FACE,0HUNDRED POINTS SYMBOL,0HUSHED FACE,0HUT,0HYGIEA,0HYPHEN,1BULLET,1WITH DIAERESIS",
   "0HYPHEN-MINUS,0HYPHENATION POINT,0HYPODIASTOLE,0HYSTERESIS SYMBOL,0I LOVE YOU HAND SIGN",
   "0ICE CREAM,1CUBE,1HOCKEY STICK AND PUCK,1SKATE,0IDENTICAL TO,2AND SLANTED PARALLEL",
   "1WITH DOT ABOVE,0IDENTIFICATION CARD,0IDEOGRAPHIC ANNOTATION BOTTOM MARK,2EARTH MARK",
   "2FIRST MARK,2FOUR MARK,2FOURTH MARK,2HEAVEN MARK,2LINKING MARK,2MAN MARK,2MIDDLE MARK",
   "2ONE MARK,2REVERSE MARK,2SECOND MARK,2THIRD MARK,2THREE MARK,2TOP MARK,2TWO MARK,1CLOSING MARK",
   "1COMMA,1DEPARTING TONE MARK,1DESCRIPTION CHARACTER ABOVE TO BELOW,5MIDDLE AND BELOW",
   "3FULL SURROUND,3LEFT TO MIDDLE AND RIGHT,5RIGHT,3OVERLAID,3SURROUND FROM ABOVE,5BELOW,5LEFT",
   "5LOWER LEFT,5UPPER LEFT,6RIGHT,1ENTERING TONE MARK,1FULL STOP,1HALF FILL SPACE,1ITERATION MARK",
   "1LEVEL TONE MARK,1NUMBER ZERO,1RISING TONE MARK,1SPACE,1TALLY MARK FIVE,3FOUR,3ONE,3THREE,3TWO",
   "1TELEGRAPH LINE FEED SEPARATOR SYMBOL,2SYMBOL FOR APRIL,4AUGUST,4DAY EIGHT,5EIGHTEEN,5ELEVEN",
   "5FIFTEEN,5FIVE,5FOUR,5FOURTEEN,5NINE,5NINETEEN,5ONE,5SEVEN,5SEVENTEEN,5SIX,5SIXTEEN,5TEN",
   "5THIRTEEN,5THIRTY,5THIRTY-ONE,5THREE,5TWELVE,5TWENTY,5TWENTY-EIGHT,5TWENTY-FIVE,5TWENTY-FOUR",
   "5TWENTY-NINE,5TWENTY-ONE,5TWENTY-SEVEN,5TWENTY-SIX,5TWENTY-THREE,5TWENTY-TWO,5TWO,4DECEMBER",
   "4FEBRUARY,4HOUR EIGHT,5EIGHTEEN,5ELEVEN,5FIFTEEN,5FIVE,5FOUR,5FOURTEEN,5NINE,5NINETEEN,5ONE",
   "5SEVEN,5SEVENTEEN,5SIX,5SIXTEEN,5TEN,5THIRTEEN,5THREE,5TWELVE,5TWENTY,5TWENTY-FOUR,5TWENTY-ONE",
   "5TWENTY-THREE,5TWENTY-TWO,5TWO,5ZERO,4JANUARY,4JULY,4JUNE,4MARCH,4MAY,4NOVEMBER,4OCTOBER",
   "4SEPTEMBER,1VARIATION INDICATOR,0IMAGE OF,2OR APPROXIMATELY EQUAL TO,0IMP",
   "0IMPERIAL ARAMAIC LETTER ALEPH,3AYIN,3BETH,3DALETH,3GIMEL,3HE,3HETH,3KAPH,3LAMEDH,3MEM,3NUN",
   "3PE,3QOPH,3RESH,3SADHE,3SAMEKH,3SHIN,3TAW,3TETH,3WAW,3YODH,3ZAYIN,2NUMBER ONE,4HUNDRED",
   "4THOUSAND,3TEN,4THOUSAND,3THREE,3TWENTY,3TWO,2SECTION SIGN,0INBOX TRAY,0INCOMING ENVELOPE",
   "0INCOMPLETE INFINITY,0INCREASE FONT SIZE SYMBOL,0INCREASES AS,0INCREMENT,0IND,0INDEX",
   "1POINTING AT THE VIEWER,0INDIAN RUPEE SIGN,0INDIC SIYAQ ALTERNATE LAKH MARK,2FRACTION ONE HALF",
   "4QUARTER,3THREE QUARTERS,2LAKH MARK,2NUMBER ALTERNATE ONE,4TEN THOUSAND,4TWO,3EIGHT,4HUNDRED",
   "4THOUSAND,3EIGHTY,4THOUSAND,3FIFTY,4THOUSAND,3FIVE,4HUNDRED,4THOUSAND,3FORTY,4THOUSAND,3FOUR",
   "4HUNDRED,4THOUSAND,3KAROR,3KARORAN,3LAKH,3LAKHAN,3NINE,4HUNDRED,4THOUSAND,3NINETY,4THOUSAND",
   "3ONE,4HUNDRED,4THOUSAND,3PREFIXED EIGHT,4FIVE,4FOUR,4NINE,4ONE,4SEVEN,4SIX,4THREE,4TWO,3SEVEN",
   "4HUNDRED,4THOUSAND,3SEVENTY,4THOUSAND,3SIX,4HUNDRED,4THOUSAND,3SIXTY,4THOUSAND,3TEN,4THOUSAND",
   "3THIRTY,4THOUSAND,3THREE,4HUNDRED,4THOUSAND,3TWENTY,4THOUSAND,3TWO,4HUNDRED,4THOUSAND",
   "2PLACEHOLDER,2RUPEE MARK,0INFINITY,1NEGATED WITH VERTICAL BAR,0INFORMATION DESK PERSON",
   "1SEPARATOR FOUR,2ONE,2THREE,2TWO,1SOURCE,0INHIBIT ARABIC FORM SHAPING,1SYMMETRIC SWAPPING",
   "0INPUT SYMBOL FOR LATIN CAPITAL LETTERS,4LETTERS,4SMALL LETTERS,3NUMBERS,3SYMBOLS",
   "0INSCRIPTIONAL PAHLAVI LETTER ALEPH,3BETH,3DALETH,3GIMEL,3HE,3HETH,3KAPH,3LAMEDH,3MEM-QOPH",
   "3NUN,3PE,3SADHE,3SAMEKH,3SHIN,3TAW,3TETH,3WAW-AYIN-RESH,3YODH,3ZAYIN,2NUMBER FOUR,3ONE",
   "4HUNDRED,4THOUSAND,3TEN,3THREE,3TWENTY,3TWO,1PARTHIAN LETTER ALEPH,3AYIN,3BETH,3DALETH,3GIMEL",
   "3HE,3HETH,3KAPH,3LAMEDH,3MEM,3NUN,3PE,3QOPH,3RESH,3SADHE,3SAMEKH,3SHIN,3TAW,3TETH,3WAW,3YODH",
   "3ZAYIN,2NUMBER FOUR,3ONE,4HUNDRED,4THOUSAND,3TEN,3THREE,3TWENTY,3TWO,0INSERTION SYMBOL",
   "0INTEGRAL,1AROUND A POINT OPERATOR,1AVERAGE WITH SLASH,1EXTENSION,1WITH DOUBLE STROKE",
   "2INTERSECTION,2LEFTWARDS ARROW WITH HOOK,2OVERBAR,2TIMES SIGN,2UNDERBAR,2UNION,0INTERCALATE",
   "0INTERIOR PRODUCT,0INTERLINEAR ANNOTATION ANCHOR,2SEPARATOR,2TERMINATOR",
   "0INTERLOCKED FEMALE AND MALE SIGN,0INTERROBANG,0INTERSECTION,1ABOVE BAR ABOVE UNION,2UNION",
   "1BESIDE AND JOINED WITH INTERSECTION,1WITH DOT,2LOGICAL AND,2OVERBAR,0INVERSE BULLET",
   "1CHECK MARK,1CHECKER BOARD FILL,1DOWNWARDS ARROW WITH TIP LEFTWARDS,1MEDIUM SHADE",
   "1WHITE CIRCLE,0INVERTED EXCLAMATION MARK,1INTERROBANG,1LAZY S,1LOW KAVYKA,3WITH KAVYKA ABOVE",
   "1OHM SIGN,1PENTAGRAM,1QUESTION MARK,1UNDERTIE,0INVISIBLE PLUS,1SEPARATOR,1TIMES",
   "0IZAKAYA LANTERN,0JACK-O-LANTERN,0JAPANESE BANK SYMBOL,1CASTLE,1DOLLS,1GOBLIN",
   "1INDUSTRIAL STANDARD SYMBOL,1OGRE,1POST OFFICE,1SYMBOL FOR BEGINNER,0JAR",
   "0JAVANESE CONSONANT SIGN CAKRA,3KERET,3PENGKAL,1DIGIT EIGHT,2FIVE,2FOUR,2NINE,2ONE,2SEVEN,2SIX",
   "2THREE,2TWO,2ZERO,1LEFT RERENGGAN,1LETTER A,2AI,2BA,3MURDA,2CA,3MURDA,2DA,3MAHAPRANA,2DDA",
   "3MAHAPRANA,2E,2GA,3MURDA,2HA,2I,3KAWI,2II,2JA,3MAHAPRANA,2KA,3MURDA,3SASAK,2LA,2MA,2NA,3MURDA",
   "2NGA,3LELET,4RASWADI,2NYA,3MURDA,2O,2PA,3CEREK,3MURDA,2RA,3AGUNG,2SA,3MAHAPRANA,3MURDA,2TA",
   "3MURDA,2TTA,3MAHAPRANA,2U,2WA,2YA,1PADA ADEG,3ADEG,2ANDAP,2ISEN-ISEN,2LINGSA,2LUHUR,2LUNGSI",
   "2MADYA,2PANGKAT,2PISELEH,2TIRTA TUMETES,2WINDU,1PANGKON,1PANGRANGKEP,1RIGHT RERENGGAN",
   "1SIGN CECAK,3TELU,2LAYAR,2PANYANGGA,2WIGNYAN,1TURNED PADA PISELEH,1VOWEL SIGN DIRGA MURE",
   "3PEPET,3SUKU,4MENDUT,3TALING,3TARUNG,3TOLONG,3WULU,4MELIK,0JEANS,0JIGSAW PUZZLE PIECE,0JOIN",
   "0JOYSTICK,0JUGGLING,0JUNO,0JUPITER,0KAABA,0KAITHI ABBREVIATION SIGN,1DANDA,1DOUBLE DANDA",
   "2SECTION MARK,1ENUMERATION SIGN,1LETTER A,2AA,2AI,2AU,2BA,2BHA,2CA,2CHA,2DA,2DDA,2DDDHA,2DDHA",
   "2DHA,2E,2GA,2GHA,2HA,2I,2II,2JA,2JHA,2KA,2KHA,2LA,2MA,2NA,2NGA,2NNA,2NYA,2O,2PA,2PHA,2RA,2RHA",
   "2SA,2SHA,2SSA,2TA,2THA,2TTA,2TTHA,2U,2UU,2VA,2YA,1NUMBER SIGN,3ABOVE,1SECTION MARK",
   "1SIGN ANUSVARA,2CANDRABINDU,2NUKTA,2VIRAMA,2VISARGA,1VOWEL SIGN AA,3AI,3AU,3E,3I,3II,3O,3U,3UU",
   "3VOCALIC R,0KANGAROO,0KANGXI RADICAL AGAIN,2AND,2ARRIVE,2ARROW,2AXE,2BADGER,2BAMBOO,2BEAN,2BIG",
   "2BIRD,2BITTER,2BLACK,2BLOOD,2BLUE,2BOAT,2BODY,2BOLT OF CLOTH,2BONE,2BOW,2BRANCH,2BRISTLE",
   "2BRUSH,2CART,2CAULDRON,2CAVE,2CHILD,2CITY,2CLAN,2CLAW,2CLIFF,2CLOTHES,2COLOR,2COMPARE,2CORPSE",
   "2COVER,2COW,2DEATH,2DEER,2DIPPER,2DISH,2DISTINGUISH,2DIVINATION,2DO NOT,2DOG,2DOOR,2DOT",
   "2DOTTED CLIFF,3TENT,2DOUBLE X,2DOWN BOX,2DRAGON,2DRUM,2DRY,2EAR,2EARTH,2EAT,2EIGHT,2EMBROIDERY",
   "2ENCLOSURE,2ENTER,2EVEN,2EVENING,2EYE,2FACE,2FANG,2FATHER,2FEATHER,2FIELD,2FIGHT,2FIRE,2FISH",
   "2FLUTE,2FLY,2FOOT,2FRAGRANT,2FROG,2FUR,2GATE,2GHOST,2GO,3SLOWLY,2GOLD,2GRAIN,2GRASS,2HAIR",
   "2HALBERD,2HALF TREE TRUNK,2HAND,2HEAD,2HEART,2HEMP,2HIDING ENCLOSURE,2HOOK,2HORN,2HORSE,2ICE",
   "2INCH,2INSECT,2JADE,2JAR,2KNIFE,2LACK,2LAME,2LEAF,2LEATHER,2LEEK,2LEGS,2LID,2LIFE,2LINE,2LONG",
   "3STRIDE,2MAN,2MEAT,2MELON,2MILLET,2MINISTER,2MOON,2MORNING,2MORTAR,2MOUND,2MOUNTAIN,2MOUTH",
   "2NET,2NOSE,2NOT,2OLD,2ONE,2ONESELF,2OPEN BOX,2OPPOSE,2PIG,2PLOW,2POWER,2PRIVATE,2PROFOUND",
   "2RAIN,2RAP,2RAT,2RED,2RICE,2RIGHT OPEN BOX,2RIVER,2ROOF,2RUN,2SACRIFICIAL WINE,2SALT,2SAY",
   "2SCHOLAR,2SCRIPT,2SEAL,2SECOND,2SEE,2SELF,2SHEEP,2SHELL,2SHOOT,2SHORT TAILED BIRD,3THREAD",
   "2SICKNESS,2SILK,2SKIN,2SLASH,2SLAVE,2SLICE,2SMALL,2SNOUT,2SOUND,2SPEAR,2SPEECH,2SPIRIT,2SPOON",
   "2SPROUT,2SQUARE,2STAND,2STEAM,2STEP,2STONE,2STOP,2STOPPING,2SUN,2SWEET,2TABLE,2TALL",
   "2TANNED LEATHER,2TEN,2TIGER,2TILE,2TONGUE,2TOOTH,2TRACK,2TREE,2TRIPOD,2TURBAN,2TURTLE,2TWO",
   "3HANDS,2USE,2VALLEY,2VILLAGE,2WALK,3ENCLOSURE,2WATER,2WEAPON,2WEST,2WHEAT,2WHITE,2WIND,2WINE",
   "2WOMAN,2WORK,2WRAP,2WRONG,2YELLOW,0KANNADA AI LENGTH MARK,1DIGIT EIGHT,2FIVE,2FOUR,2NINE,2ONE",
   "2SEVEN,2SIX,2THREE,2TWO,2ZERO,1LENGTH MARK,1LETTER A,2AA,2AI,2AU,2BA,2BHA,2CA,2CHA,2DA,2DDA",
   "2DDHA,2DHA,2E,2EE,2FA,2GA,2GHA,2HA,2I,2II,2JA,2JHA,2KA,2KHA,2LA,2LLA,2LLLA,2MA,2NA",
   "2NAKAARA POLLU,2NGA,2NNA,2NYA,2O,2OO,2PA,2PHA,2RA,2RRA,2SA,2SHA,2SSA,2TA,2THA,2TTA,2TTHA,2U",
   "2UU,2VA,2VOCALIC L,3LL,3R,3RR,2YA,1SIGN ANUSVARA,2AVAGRAHA,2CANDRABINDU,2JIHVAMULIYA,2NUKTA",
   "2SIDDHAM,2SPACING CANDRABINDU,2UPADHMANIYA,2VIRAMA,2VISARGA,1VOWEL SIGN AA,3AI,3AU,3E,3EE,3I",
   "3II,3O,3OO,3U,3UU,3VOCALIC L,4LL,4R,4RR,0KATAKANA DIGRAPH KOTO,1ITERATION MARK,1LETTER A",
   "2ARCHAIC E,3WU,3YE,3YI,2BA,2BE,2BI,2BO,2BU,2DA,2DE,2DI,2DO,2DU,2E,2GA,2GE,2GI,2GO,2GU,2HA,2HE",
   "2HI,2HO,2HU,2I,2KA,2KE,2KI,2KO,2KU,2MA,2ME,2MI,2MINNAN NASALIZED TONE-1,4TONE-2,4TONE-3",
   "4TONE-4,4TONE-5,4TONE-7,4TONE-8,3TONE-2,3TONE-3,3TONE-4,3TONE-5,3TONE-7,3TONE-8,2MO,2MU,2N,2NA",
   "2NE,2NI,2NO,2NU,2O,2PA,2PE,2PI,2PO,2PU,2RA,2RE,2RI,2RO,2RU,2SA,2SE,2SI,2SMALL A,3E,3HA,3HE,3HI",
   "3HO,3HU,3I,3KA,3KE,3KU,3MU,3N,3NU,3O,3RA,3RE,3RI,3RO,3RU,3SI,3SU,3TO,3TU,3U,3WA,3WE,3WI,3WO",
   "3YA,3YO,3YU,2SO,2SU,2TA,2TE,2TI,2TO,2TU,2U,2VA,2VE,2VI,2VO,2VU,2WA,2WE,2WI,2WO,2YA,2YO,2YU,2ZA",
   "2ZE,2ZI,2ZO,2ZU,1MIDDLE DOT,1VOICED ITERATION MARK,0KATAKANA-HIRAGANA DOUBLE HYPHEN",
   "1PROLONGED SOUND MARK,1SEMI-VOICED SOUND MARK,1VOICED SOUND MARK,0KAYAH LI DIGIT EIGHT,3FIVE",
   "3FOUR,3NINE,3ONE,3SEVEN,3SIX,3THREE,3TWO,3ZERO,2LETTER A,3BA,3CA,3DA,3GA,3HA,3HTA,3I,3KA,3KHA",
   "3LA,3MA,3NA,3NGA,3NYA,3OE,3OO,3PA,3PHA,3RA,3SA,3SHA,3TA,3THA,3VA,3WA,3YA,3ZA,2SIGN CWI,3SHYA",
   "2TONE CALYA,4PLOPHU,3PLOPHU,2VOWEL E,3EE,3O,3U,3UE,0KELVIN SIGN,0KEY,0KEYBOARD,1AND MOUSE",
   "0KEYCAP TEN,0KHAROSHTHI DIGIT FOUR,2ONE,2THREE,2TWO,1FRACTION ONE HALF,1LETTER A,2BA,2BHA,2CA",
   "2CHA,2DA,2DDA,2DDHA,2DHA,2GA,2GHA,2HA,2JA,2KA,2KHA,2KKA,2LA,2MA,2NA,2NNA,2NYA,2PA,2PHA,2RA,2SA",
   "2SHA,2SSA,2TA,2THA,2TTA,2TTHA,2TTTA,2TTTHA,2VA,2VHA,2YA,2ZA,1NUMBER ONE HUNDRED,3THOUSAND,2TEN",
   "2TWENTY,1PUNCTUATION CIRCLE,2CRESCENT BAR,2DANDA,2DOT,2DOUBLE DANDA,2LINES,2LOTUS,2MANGALAM",
   "2SMALL CIRCLE,1SIGN ANUSVARA,2BAR ABOVE,2CAUDA,2DOT BELOW,2DOUBLE RING BELOW,2VISARGA,1VIRAMA",
   "1VOWEL LENGTH MARK,2SIGN E,3I,3O,3U,3VOCALIC R,0KHITAN SMALL SCRIPT FILLER",
   "0KHMER CURRENCY SYMBOL RIEL,1DIGIT EIGHT,2FIVE,2FOUR,2NINE,2ONE,2SEVEN,2SIX,2THREE,2TWO,2ZERO",
   "1INDEPENDENT VOWEL LY,3LYY,3QAA,3QAI,3QAQ,3QAU,3QE,3QI,3QII,3QOO TYPE ONE,5TWO,3QU,3QUK,3QUU",
   "3QUUV,3RY,3RYY,1LETTER BA,2CA,2CHA,2CHO,2CO,2DA,2DO,2HA,2KA,2KHA,2KHO,2KO,2LA,2LO,2MO,2NGO",
   "2NNO,2NO,2NYO,2PHA,2PHO,2PO,2QA,2RO,2SA,2SHA,2SSO,2TA,2THA,2THO,2TO,2TTHA,2TTHO,2VO,2YO",
   "1SIGN AHSDA,2ATTHACAN,2AVAKRAHASANYA,2BANTOC,2BARIYOOSAN,2BATHAMASAT,2BEYYAL,2CAMNUC PII KUUH",
   "2COENG,2KAKABAT,2KHAN,2KOOMUUT,2LEK TOO,2MUUSIKATOAN,2NIKAHIT,2PHNAEK MUAN,2REAHMUK,2ROBAT",
   "2SAMYOK SANNYA,2TOANDAKHIAT,2TRIISAP,2VIRIAM,2YUUKALEAPINTU,1SYMBOL BEI KOET,3ROC,2BUON KOET",
   "3ROC,2DAP KOET,3ROC,2DAP-BEI KOET,3ROC,2DAP-BUON KOET,3ROC,2DAP-MUOY KOET,3ROC,2DAP-PII KOET",
   "3ROC,2DAP-PRAM KOET,3ROC,2LEK ATTAK BEI,4BUON,4MUOY,4PII,4PRAM,4PRAM-BEI,4PRAM-BUON,4PRAM-MUOY",
   "4PRAM-PII,4SON,2MUOY KOET,3ROC,2PATHAMASAT,2PII KOET,3ROC,2PRAM KOET,3ROC,2PRAM-BEI KOET,3ROC",
   "2PRAM-BUON KOET,3ROC,2PRAM-MUOY KOET,3ROC,2PRAM-PII KOET,3ROC,2TUTEYASAT,1VOWEL INHERENT AA",
   "3AQ,2SIGN AA,3AE,3AI,3AU,3E,3I,3IE,3II,3OE,3OO,3U,3UA,3UU,3Y,3YA,3YY,0KHOJKI ABBREVIATION SIGN",
   "1DANDA,1DOUBLE DANDA,2SECTION MARK,1LETTER A,2AA,2AI,2AU,2BA,2BBA,2BHA,2CA,2CHA,2DA,2DDA,2DDDA",
   "2DDHA,2DHA,2E,2GA,2GGA,2GHA,2HA,2I,2JA,2JJA,2KA,2KHA,2LA,2LLA,2MA,2NA,2NGA,2NNA,2NYA,2O,2PA",
   "2PHA,2RA,2SA,2TA,2THA,2TTA,2TTHA,2U,2VA,2YA,1SECTION MARK,1SIGN ANUSVARA,2NUKTA,2SHADDA,2SUKUN",
   "2VIRAMA,1VOWEL SIGN AA,3AI,3AU,3E,3I,3II,3O,3U,1WORD SEPARATOR,0KHUDAWADI DIGIT EIGHT,2FIVE",
   "2FOUR,2NINE,2ONE,2SEVEN,2SIX,2THREE,2TWO,2ZERO,1LETTER A,2AA,2AI,2AU,2BA,2BBA,2BHA,2CA,2CHA",
   "2DA,2DDA,2DDDA,2DDHA,2DHA,2E,2GA,2GGA,2GHA,2HA,2I,2II,2JA,2JHA,2JJA,2KA,2KHA,2LA,2MA,2NA,2NGA",
   "2NNA,2NYA,2O,2PA,2PHA,2RA,2RRA,2SA,2SHA,2TA,2THA,2TTA,2TTHA,2U,2UU,2VA,2YA,1SIGN ANUSVARA",
   "2NUKTA,2VIRAMA,1VOWEL SIGN AA,3AI,3AU,3E,3I,3II,3O,3U,3UU,0KIMONO,0KIP SIGN,0KISS,1MARK",
   "0KISSING CAT FACE WITH CLOSED EYES,1FACE,2WITH CLOSED EYES,3SMILING EYES,0KITE,0KIWIFRUIT",
   "0KNEELING PERSON,0KNOT,0KOALA,0KOREAN STANDARD SYMBOL,0KRONOS,0L B BAR SYMBOL,0LAB COAT,0LABEL",
   "0LACROSSE STICK AND BALL,0LADDER,0LADY BEETLE,0LANGUAGE TAG,0LAO CANCELLATION MARK",
   "1DIGIT EIGHT,2FIVE,2FOUR,2NINE,2ONE,2SEVEN,2SIX,2THREE,2TWO,2ZERO,1ELLIPSIS,1HO MO,2NO,1KO LA",
   "1LETTER BO,2CO,2DO,2FO FAY,3FON,3SUNG,3TAM,2HO SUNG,3TAM,2KHMU GO,3NYO,2KHO SUNG,3TAM,2KO,2LO",
   "3LING,3LOOT,2MO,2NGO,2NO,2NYO,2O,2PALI BHA,3CHA,3DDA,3DDHA,3DHA,3GHA,3JHA,3LLA,3NNA,3NYA,3TTA",
   "3TTHA,2PHO SUNG,3TAM,2PO,2RO,2SANSKRIT SHA,3SSA,2SO SUNG,3TAM,2THO SUNG,3TAM,2TO,2WO,2YO",
   "1NIGGAHITA,1SEMIVOWEL SIGN LO,3NYO,1SIGN PALI VIRAMA,1TONE MAI CATAWA,3EK,3THO,3TI",
   "1VOWEL SIGN A,3AA,3AI,3AM,3AY,3E,3EI,3I,3II,3MAI KAN,4KON,3O,3U,3UU,3Y,3YY,0LARGE BLUE CIRCLE",
   "2DIAMOND,2SQUARE,1BROWN CIRCLE,2SQUARE,1CIRCLE,1DOWN TACK,1GREEN CIRCLE,2SQUARE",
   "1LEFT TRIANGLE OPERATOR,1ONE DOT OVER TWO DOTS PUNCTUATION,2RING OVER TWO RINGS PUNCTUATION",
   "1ORANGE CIRCLE,2DIAMOND,2SQUARE,1PURPLE CIRCLE,2SQUARE,1RED CIRCLE,2SQUARE",
   "1TRIPLE VERTICAL BAR OPERATOR,1TWO DOTS OVER ONE DOT PUNCTUATION",
   "2RINGS OVER ONE RING PUNCTUATION,1UP TACK,1YELLOW CIRCLE,2SQUARE,0LARGER THAN,2OR EQUAL TO",
   "0LARI SIGN,0LAST QUARTER MOON,3SYMBOL,3WITH FACE,0LATIN CAPITAL LETTER A,4WITH ACUTE,5BREVE",
   "6AND ACUTE,7DOT BELOW,7GRAVE,7HOOK ABOVE,7TILDE,5CARON,5CIRCUMFLEX,6AND ACUTE,7DOT BELOW",
   "7GRAVE,7HOOK ABOVE,7TILDE,5DIAERESIS,6AND MACRON,5DOT ABOVE,7AND MACRON,6BELOW,5DOUBLE GRAVE",
   "5GRAVE,5HOOK ABOVE,5INVERTED BREVE,5MACRON,5OGONEK,5RING ABOVE,7AND ACUTE,6BELOW,5STROKE",
   "5TILDE,3AA,3AE,4WITH ACUTE,5MACRON,3AFRICAN D,3ALPHA,3ANGLICANA W,3AO,3AU,3AV",
   "4WITH HORIZONTAL BAR,3AY,3B,4WITH DOT ABOVE,6BELOW,5FLOURISH,5HOOK,5LINE BELOW,5STROKE,5TOPBAR",
   "3BETA,3BROKEN L,3C,4WITH ACUTE,5BAR,5CARON,5CEDILLA,6AND ACUTE,5CIRCUMFLEX,5DOT ABOVE,5HOOK",
   "5PALATAL HOOK,5STROKE,3CHI,3CLOSED INSULAR G,3CON,3CUATRILLO,4WITH COMMA,3D,4WITH CARON",
   "5CEDILLA,5CIRCUMFLEX BELOW,5DOT ABOVE,6BELOW,5HOOK,5LINE BELOW,5SHORT STROKE OVERLAY",
   "5SMALL LETTER Z,8WITH CARON,5STROKE,5TOPBAR,3DZ,4WITH CARON,3E,4WITH ACUTE,5BREVE,5CARON",
   "5CEDILLA,6AND BREVE,5CIRCUMFLEX,6AND ACUTE,7DOT BELOW,7GRAVE,7HOOK ABOVE,7TILDE,6BELOW",
   "5DIAERESIS,5DOT ABOVE,6BELOW,5DOUBLE GRAVE,5GRAVE,5HOOK ABOVE,5INVERTED BREVE,5MACRON",
   "6AND ACUTE,7GRAVE,5OGONEK,5STROKE,5TILDE,6BELOW,3EGYPTOLOGICAL AIN,4ALEF,3ENG,3ESH,3ET,3ETH",
   "3EZH,4REVERSED,4WITH CARON,3F,4WITH DOT ABOVE,5HOOK,5STROKE,3G,4WITH ACUTE,5BREVE,5CARON",
   "5CEDILLA,5CIRCUMFLEX,5DOT ABOVE,5HOOK,5MACRON,5OBLIQUE STROKE,5STROKE,3GAMMA,3GHA,3GLOTTAL A",
   "4I,4STOP,4U,3H,4WITH BREVE BELOW,5CARON,5CEDILLA,5CIRCUMFLEX,5DESCENDER,5DIAERESIS,5DOT ABOVE",
   "6BELOW,5HOOK,5STROKE,3HALF H,3HENG,3HWAIR,3I,4WITH ACUTE,5BREVE,5CARON,5CIRCUMFLEX,5DIAERESIS",
   "6AND ACUTE,5DOT ABOVE,6BELOW,5DOUBLE GRAVE,5GRAVE,5HOOK ABOVE,5INVERTED BREVE,5MACRON,5OGONEK",
   "5STROKE,5TILDE,6BELOW,3INSULAR D,4F,4G,4R,4S,4T,3IOTA,3IS,3J,4WITH CIRCUMFLEX,5CROSSED-TAIL",
   "5STROKE,3K,4WITH ACUTE,5CARON,5CEDILLA,5DESCENDER,5DIAGONAL STROKE,5DOT BELOW,5HOOK",
   "5LINE BELOW,5OBLIQUE STROKE,5STROKE,6AND DIAGONAL STROKE,3L,4WITH ACUTE,5BAR,5BELT,5CARON",
   "5CEDILLA,5CIRCUMFLEX BELOW,5DOT BELOW,7AND MACRON,5DOUBLE BAR,5HIGH STROKE,5LINE BELOW",
   "5MIDDLE DOT,6TILDE,5SMALL LETTER J,5STROKE,3LJ,3M,4WITH ACUTE,5DOT ABOVE,6BELOW,5HOOK",
   "3MIDDLE SCOTS S,3MIDDLE-WELSH LL,4V,3N,4WITH ACUTE,5CARON,5CEDILLA,5CIRCUMFLEX BELOW",
   "5DESCENDER,5DOT ABOVE,6BELOW,5GRAVE,5LEFT HOOK,5LINE BELOW,5LONG RIGHT LEG,5OBLIQUE STROKE",
   "5SMALL LETTER J,5TILDE,3NJ,3O,4WITH ACUTE,5BREVE,5CARON,5CIRCUMFLEX,6AND ACUTE,7DOT BELOW",
   "7GRAVE,7HOOK ABOVE,7TILDE,5DIAERESIS,6AND MACRON,5DOT ABOVE,7AND MACRON,6BELOW,5DOUBLE ACUTE",
   "6GRAVE,5GRAVE,5HOOK ABOVE,5HORN,6AND ACUTE,7DOT BELOW,7GRAVE,7HOOK ABOVE,7TILDE",
   "5INVERTED BREVE,5LONG STROKE OVERLAY,5LOOP,5MACRON,6AND ACUTE,7GRAVE,5MIDDLE TILDE,5OGONEK",
   "6AND MACRON,5STROKE,6AND ACUTE,5TILDE,6AND ACUTE,7DIAERESIS,7MACRON,3OI,3OLD POLISH O,3OMEGA",
   "3OO,3OPEN E,4O,3OU,3P,4WITH ACUTE,5DOT ABOVE,5FLOURISH,5HOOK,5SQUIRREL TAIL,5STROKE",
   "6THROUGH DESCENDER,3Q,4WITH DIAGONAL STROKE,5STROKE THROUGH DESCENDER,3R,4ROTUNDA,4WITH ACUTE",
   "5CARON,5CEDILLA,5DOT ABOVE,6BELOW,7AND MACRON,5DOUBLE GRAVE,5INVERTED BREVE,5LINE BELOW",
   "5OBLIQUE STROKE,5STROKE,5TAIL,3REVERSED C WITH DOT,4E,4HALF H,4OPEN E,3RUM ROTUNDA,3S",
   "4WITH ACUTE,6AND DOT ABOVE,5CARON,6AND DOT ABOVE,5CEDILLA,5CIRCUMFLEX,5COMMA BELOW,5DOT ABOVE",
   "6BELOW,7AND DOT ABOVE,5HOOK,5OBLIQUE STROKE,5SHORT STROKE OVERLAY,5SWASH TAIL,3SALTILLO,3SCHWA",
   "3SCRIPT G,3SHARP S,3SIGMOID S,3SMALL CAPITAL I,4Q WITH HOOK TAIL,3T,4WITH CARON,5CEDILLA",
   "5CIRCUMFLEX BELOW,5COMMA BELOW,5DIAGONAL STROKE,5DOT ABOVE,6BELOW,5HOOK,5LINE BELOW",
   "5RETROFLEX HOOK,5STROKE,3THORN,4WITH STROKE,6THROUGH DESCENDER,3TONE FIVE,4SIX,4TWO,3TRESILLO",
   "3TURNED A,4ALPHA,4H,4INSULAR G,4K,4L,4M,4T,4V,3TZ,3U,4BAR,4WITH ACUTE,5BREVE,5CARON",
   "5CIRCUMFLEX,6BELOW,5DIAERESIS,6AND ACUTE,7CARON,7GRAVE,7MACRON,6BELOW,5DOT BELOW,5DOUBLE ACUTE",
   "6GRAVE,5GRAVE,5HOOK ABOVE,5HORN,6AND ACUTE,7DOT BELOW,7GRAVE,7HOOK ABOVE,7TILDE",
   "5INVERTED BREVE,5MACRON,6AND DIAERESIS,5OGONEK,5RING ABOVE,5STROKE,5TILDE,6AND ACUTE,6BELOW",
   "3UPSILON,3V,4WITH DIAGONAL STROKE,5DOT BELOW,5HOOK,5TILDE,3VEND,3VISIGOTHIC Z,3VOLAPUK AE,4OE",
   "4UE,3VY,3W,4WITH ACUTE,5CIRCUMFLEX,5DIAERESIS,5DOT ABOVE,6BELOW,5GRAVE,5HOOK,3WYNN,3X",
   "4WITH DIAERESIS,5DOT ABOVE,3Y,4WITH ACUTE,5CIRCUMFLEX,5DIAERESIS,5DOT ABOVE,6BELOW,5GRAVE",
   "5HOOK,6ABOVE,5LOOP,5MACRON,5STROKE,5TILDE,3YOGH,3Z,4WITH ACUTE,5CARON,5CIRCUMFLEX,5DESCENDER",
   "5DOT ABOVE,6BELOW,5HOOK,5LINE BELOW,5PALATAL HOOK,5STROKE,5SWASH TAIL,2LIGATURE IJ,3OE,1CROSS",
   "1EPIGRAPHIC LETTER ARCHAIC M,3I LONGA,3INVERTED M,3REVERSED F,4P,3SIDEWAYS I,1LETTER AIN",
   "2ALVEOLAR CLICK,2BIDENTAL PERCUSSIVE,2BILABIAL CLICK,3PERCUSSIVE,2DENTAL CLICK,2GLOTTAL STOP",
   "4WITH STROKE,2INVERTED GLOTTAL STOP,5WITH CURL,6STROKE,2LATERAL CLICK",
   "2PHARYNGEAL VOICED FRICATIVE,2RETROFLEX CLICK,4WITH RETROFLEX HOOK,2REVERSED ESH LOOP",
   "3GLOTTAL STOP WITH STROKE,2SINOLOGICAL DOT,2SMALL CAPITAL A,4AE,4B,4BARRED B,4C,4D,4E,4ETH",
   "4EZH,4F,4G,5WITH HOOK,4H,4I,4INVERTED R,4J,4K,4L,5WITH BELT,6STROKE,4M,4N,4O,4OE,4OPEN O,4OU",
   "4P,4Q,4R,5WITH RIGHT LEG,4REVERSED N,5R,4RUM,4S,4T,4TURNED E,5G,5K,5M,5R,4U,4V,4W,4Y,4Z",
   "2STRETCHED C,4WITH CURL,2TWO WITH STROKE,2VOICED LARYNGEAL SPIRANT,2WYNN,2YR",
   "1SMALL CAPITAL LETTER I WITH STROKE,4U WITH STROKE,2LETTER A,4REVERSED-SCHWA,4WITH ACUTE",
   "5BREVE,6AND ACUTE,7DOT BELOW,7GRAVE,7HOOK ABOVE,7TILDE,5CARON,5CIRCUMFLEX,6AND ACUTE",
   "7DOT BELOW,7GRAVE,7HOOK ABOVE,7TILDE,5DIAERESIS,6AND MACRON,5DOT ABOVE,7AND MACRON,6BELOW",
   "5DOUBLE GRAVE,5GRAVE,5HOOK ABOVE,5INVERTED BREVE,5MACRON,5OGONEK,5RETROFLEX HOOK",
   "5RIGHT HALF RING,5RING ABOVE,7AND ACUTE,6BELOW,5STROKE,5TILDE,3AA,3AE,4WITH ACUTE,5MACRON",
   "3ALPHA,4WITH RETROFLEX HOOK,3ANGLICANA W,3AO,3AU,3AV,4WITH HORIZONTAL BAR,3AY,3B",
   "4WITH DOT ABOVE,6BELOW,5FLOURISH,5HOOK,5LINE BELOW,5MIDDLE TILDE,5PALATAL HOOK,5STROKE,5TOPBAR",
   "3BARRED ALPHA,4E,4O,3BASELINE ESH,3BETA,3BLACKLETTER E,4O,5WITH STROKE,3BOTTOM HALF O",
   "3BROKEN L,3C,4WITH ACUTE,5BAR,5CARON,5CEDILLA,6AND ACUTE,5CIRCUMFLEX,5CURL,5DOT ABOVE,5HOOK",
   "5PALATAL HOOK,5RETROFLEX HOOK,5STROKE,3CHI,4WITH LOW LEFT SERIF,6RIGHT RING,3CLOSED INSULAR G",
   "4OMEGA,4OPEN E,4REVERSED OPEN E,3CON,3CUATRILLO,4WITH COMMA,3D,4WITH CARON,5CEDILLA",
   "5CIRCUMFLEX BELOW,5CURL,5DOT ABOVE,6BELOW,5HOOK,6AND TAIL,5LINE BELOW,5MIDDLE TILDE",
   "5PALATAL HOOK,5SHORT STROKE OVERLAY,5STROKE,5TAIL,5TOPBAR,3DB DIGRAPH,3DELTA,3DEZH DIGRAPH",
   "5WITH PALATAL HOOK,6RETROFLEX HOOK,3DOTLESS I,4J,5WITH STROKE,7AND HOOK,3DOUBLE R",
   "5WITH CROSSED-TAIL,4THORN,4WYNN,3DUM,3DZ,4DIGRAPH,5WITH CURL,6RETROFLEX HOOK,4WITH CARON,3E",
   "4WITH ACUTE,5BREVE,5CARON,5CEDILLA,6AND BREVE,5CIRCUMFLEX,6AND ACUTE,7DOT BELOW,7GRAVE",
   "7HOOK ABOVE,7TILDE,6BELOW,5DIAERESIS,5DOT ABOVE,6BELOW,5DOUBLE GRAVE,5FLOURISH,5GRAVE",
   "5HOOK ABOVE,5INVERTED BREVE,5MACRON,6AND ACUTE,7GRAVE,5NOTCH,5OGONEK,5RETROFLEX HOOK,5STROKE",
   "5TILDE,6BELOW,3EGYPTOLOGICAL AIN,4ALEF,3ENG,4WITH CROSSED-TAIL,5PALATAL HOOK,3ESH,4WITH CURL",
   "5DOUBLE BAR,7AND CURL,5PALATAL HOOK,5RETROFLEX HOOK,3ET,3ETH,3EZH,4REVERSED,4WITH CARON,5CURL",
   "5PALATAL HOOK,5RETROFLEX HOOK,5TAIL,3F,4WITH DOT ABOVE,5HOOK,5MIDDLE TILDE,5PALATAL HOOK",
   "5STROKE,3FENG DIGRAPH,5WITH TRILL,3G,4WITH ACUTE,5BREVE,5CARON,5CEDILLA,5CIRCUMFLEX,5DOT ABOVE",
   "5HOOK,5MACRON,5OBLIQUE STROKE,5PALATAL HOOK,5STROKE,3GAMMA,3GHA,3GLOTTAL A,4I,4STOP,4U,3H",
   "4WITH BREVE BELOW,5CARON,5CEDILLA,5CIRCUMFLEX,5DESCENDER,5DIAERESIS,5DOT ABOVE,6BELOW,5HOOK",
   "5LINE BELOW,5PALATAL HOOK,5STROKE,3HALF H,3HENG,4WITH HOOK,3HV,3I,4WITH ACUTE,5BREVE,5CARON",
   "5CIRCUMFLEX,5DIAERESIS,6AND ACUTE,5DOT BELOW,5DOUBLE GRAVE,5GRAVE,5HOOK ABOVE,5INVERTED BREVE",
   "5MACRON,5OGONEK,5RETROFLEX HOOK,5STROKE,6AND RETROFLEX HOOK,5TILDE,6BELOW,3INSULAR D,4F,4G,4R",
   "4S,4T,3INVERTED ALPHA,4OE,3IOTA,4WITH STROKE,3IOTIFIED E,3IS,3J,4WITH CARON,5CIRCUMFLEX",
   "5CROSSED-TAIL,5STROKE,3K,4WITH ACUTE,5CARON,5CEDILLA,5DESCENDER,5DIAGONAL STROKE,5DOT BELOW",
   "5HOOK,5LINE BELOW,5OBLIQUE STROKE,5PALATAL HOOK,5STROKE,6AND DIAGONAL STROKE,3KRA,3L",
   "4WITH ACUTE,5BAR,5BELT,6AND PALATAL HOOK,5CARON,5CEDILLA,5CIRCUMFLEX BELOW,5CURL,5DOT BELOW",
   "7AND MACRON,5DOUBLE BAR,6MIDDLE TILDE,5FISHHOOK,5HIGH STROKE,5INVERTED LAZY S,5LINE BELOW",
   "5MIDDLE DOT,6RING,6TILDE,5PALATAL HOOK,5RETROFLEX HOOK,7AND BELT,5STROKE,3LAMBDA WITH STROKE",
   "3LENIS F,3LEZH,4WITH RETROFLEX HOOK,3LJ,3LONG S,5WITH DIAGONAL STROKE,6DOT ABOVE,6HIGH STROKE",
   "3LS DIGRAPH,3LUM,3LZ DIGRAPH,3M,4WITH ACUTE,5CROSSED-TAIL,5DOT ABOVE,6BELOW,5HOOK",
   "5MIDDLE TILDE,5PALATAL HOOK,3MIDDLE SCOTS S,3MIDDLE-WELSH LL,4V,3MUM,3N",
   "4PRECEDED BY APOSTROPHE,4WITH ACUTE,5CARON,5CEDILLA,5CIRCUMFLEX BELOW,5CROSSED-TAIL,5CURL",
   "5DESCENDER,5DOT ABOVE,6BELOW,5GRAVE,5LEFT HOOK,5LINE BELOW,5LONG RIGHT LEG,5MIDDLE TILDE",
   "5OBLIQUE STROKE,5PALATAL HOOK,5RETROFLEX HOOK,5TILDE,3NJ,3NUM,3O,4WITH ACUTE,5BREVE,5CARON",
   "5CIRCUMFLEX,6AND ACUTE,7DOT BELOW,7GRAVE,7HOOK ABOVE,7TILDE,5DIAERESIS,6AND MACRON,5DOT ABOVE",
   "7AND MACRON,6BELOW,5DOUBLE ACUTE,6GRAVE,5GRAVE,5HOOK ABOVE,5HORN,6AND ACUTE,7DOT BELOW,7GRAVE",
   "7HOOK ABOVE,7TILDE,5INVERTED BREVE,5LONG STROKE OVERLAY,5LOOP,5LOW RING INSIDE,5MACRON",
   "6AND ACUTE,7GRAVE,5OGONEK,6AND MACRON,5RETROFLEX HOOK,5STROKE,6AND ACUTE,5TILDE,6AND ACUTE",
   "7DIAERESIS,7MACRON,3OI,3OLD POLISH O,3OMEGA,3OO,3OPEN E,5WITH RETROFLEX HOOK,4O",
   "5WITH RETROFLEX HOOK,6STROKE,4OE,3OU,3P,4WITH ACUTE,5DOT ABOVE,5FLOURISH,5HOOK,5MIDDLE TILDE",
   "5PALATAL HOOK,5SQUIRREL TAIL,5STROKE,6THROUGH DESCENDER,3PHI,3Q,4WITH DIAGONAL STROKE,5HOOK",
   "6TAIL,5STROKE THROUGH DESCENDER,3QP DIGRAPH,3R,4ROTUNDA,4WITH ACUTE,5CARON,5CEDILLA",
   "5CROSSED-TAIL,5DOT ABOVE,6BELOW,7AND MACRON,5DOUBLE GRAVE,5FISHHOOK,6AND MIDDLE TILDE",
   "7PALATAL HOOK,5INVERTED BREVE,5LINE BELOW,5LONG LEG,5MIDDLE TILDE,5OBLIQUE STROKE",
   "5PALATAL HOOK,5STROKE,5TAIL,4WITHOUT HANDLE,3RAMS HORN,3REVERSED C,5WITH DOT,4E,4ENG,4HALF H",
   "4K,4OPEN E,6WITH HOOK,7RETROFLEX HOOK,4R WITH FISHHOOK,4SCRIPT G,3RUM,4ROTUNDA,3S,4WITH ACUTE",
   "6AND DOT ABOVE,5CARON,6AND DOT ABOVE,5CEDILLA,5CIRCUMFLEX,5COMMA BELOW,5CURL,5DOT ABOVE,6BELOW",
   "7AND DOT ABOVE,5HOOK,5MIDDLE TILDE,5OBLIQUE STROKE,5PALATAL HOOK,5SHORT STROKE OVERLAY",
   "5SWASH TAIL,3SAKHA YAT,3SALTILLO,3SCHWA,4WITH HOOK,5RETROFLEX HOOK,3SCRIPT G",
   "5WITH CROSSED-TAIL,4R,5WITH RING,3SHARP S,3SIDEWAYS DIAERESIZED U,4O,5WITH STROKE,4OPEN O",
   "4TURNED M,4U,3SIGMOID S,3SQUAT REVERSED ESH,3STIRRUP R,3T,4WITH CARON,5CEDILLA",
   "5CIRCUMFLEX BELOW,5COMMA BELOW,5CURL,5DIAERESIS,5DIAGONAL STROKE,5DOT ABOVE,6BELOW,5HOOK",
   "6AND RETROFLEX HOOK,5LINE BELOW,5MIDDLE TILDE,5PALATAL HOOK,5RETROFLEX HOOK,5STROKE",
   "3TAILLESS PHI,3TC DIGRAPH WITH CURL,3TESH DIGRAPH,5WITH PALATAL HOOK,6RETROFLEX HOOK",
   "3TH WITH STRIKETHROUGH,3THORN,4WITH STROKE,6THROUGH DESCENDER,3TONE FIVE,4SIX,4TWO,3TOP HALF O",
   "3TRESILLO,3TS DIGRAPH,5WITH RETROFLEX HOOK,3TUM,3TURNED A,4AE,4ALPHA,4DELTA,4E,4G,4H",
   "5WITH FISHHOOK,7AND TAIL,4I,4INSULAR G,4K,4L,4M,5WITH LONG LEG,4O OPEN-O,6WITH STROKE,4OE",
   "5WITH HORIZONTAL STROKE,6STROKE,4OPEN E,4R,5WITH HOOK,6LONG LEG,8AND RETROFLEX HOOK",
   "6MIDDLE TILDE,6PALATAL HOOK,6TAIL,4T,5WITH CURL,4UI,4V,4W,4Y,5WITH BELT,3TZ,3U,4BAR",
   "5WITH SHORT RIGHT LEG,4WITH ACUTE,5BREVE,5CARON,5CIRCUMFLEX,6BELOW,5DIAERESIS,6AND ACUTE",
   "7CARON,7GRAVE,7MACRON,6BELOW,5DOT BELOW,5DOUBLE ACUTE,6GRAVE,5GRAVE,5HOOK ABOVE,5HORN",
   "6AND ACUTE,7DOT BELOW,7GRAVE,7HOOK ABOVE,7TILDE,5INVERTED BREVE,5LEFT HOOK,5MACRON",
   "6AND DIAERESIS,5OGONEK,5RETROFLEX HOOK,5RING ABOVE,5SHORT RIGHT LEG,5STROKE,5TILDE,6AND ACUTE",
   "6BELOW,3UE,3UI,3UM,3UO,3UPSILON,4WITH STROKE,3V,4WITH CURL,5DIAGONAL STROKE,5DOT BELOW,5HOOK",
   "5PALATAL HOOK,5RIGHT HOOK,5TILDE,3VEND,3VISIGOTHIC Z,3VOLAPUK AE,4OE,4UE,3VY,3W,4WITH ACUTE",
   "5CIRCUMFLEX,5DIAERESIS,5DOT ABOVE,6BELOW,5GRAVE,5HOOK,5RING ABOVE,3X,4WITH DIAERESIS",
   "5DOT ABOVE,5LONG LEFT LEG,8AND LOW RIGHT RING,8WITH SERIF,5LOW RIGHT RING,5PALATAL HOOK,3Y",
   "4WITH ACUTE,5CIRCUMFLEX,5DIAERESIS,5DOT ABOVE,6BELOW,5GRAVE,5HOOK,6ABOVE,5LOOP,5MACRON",
   "5RING ABOVE,5SHORT RIGHT LEG,5STROKE,5TILDE,3YOGH,3Z,4WITH ACUTE,5CARON,5CIRCUMFLEX,5CURL",
   "5DESCENDER,5DOT ABOVE,6BELOW,5HOOK,5LINE BELOW,5MIDDLE TILDE,5PALATAL HOOK,5RETROFLEX HOOK",
   "5STROKE,5SWASH TAIL,2LIGATURE FF,3FFI,3FFL,3FI,3FL,3IJ,3LONG S T,3OE,3ST",
   "1SUBSCRIPT SMALL LETTER A,4E,4H,4I,4J,4K,4L,4M,4N,4O,4P,4R,4S,4SCHWA,4T,4U,4V,4X",
   "0LEAF FLUTTERING IN WIND,0LEAFY GREEN,0LEDGER",
   "0LEFT AND LOWER AND RIGHT TRIANGULAR THREE QUARTERS BLOCK,3ONE EIGHTH BLOCK",
   "2RIGHT DOUBLE TURNSTILE,3TACK,3TRIANGULAR HALF BLOCK",
   "2UPPER AND RIGHT TRIANGULAR THREE QUARTERS BLOCK,3ONE EIGHTH BLOCK,1ANGER BUBBLE",
   "1ANGLE BRACKET,3WITH DOT,1ARC LESS-THAN BRACKET,1ARROW WITH CIRCLED PLUS,3SMALL CIRCLE",
   "1BARB DOWN RIGHT BARB DOWN HARPOON,5UP HARPOON,2UP RIGHT BARB DOWN HARPOON,5UP HARPOON",
   "1BLACK LENTICULAR BRACKET,2TORTOISE SHELL BRACKET,1CEILING,1CLOSED ENTRY,1CORNER BRACKET",
   "1CURLY BRACKET,3LOWER HOOK,3MIDDLE PIECE,3UPPER HOOK,1DOTTED SUBSTITUTION BRACKET",
   "1DOUBLE ANGLE BRACKET,2PARENTHESIS,2QUOTATION MARK,2WIGGLY FENCE,1FISH TAIL",
   "1FIVE EIGHTHS BLOCK,1FLOOR,1HALF BLACK CIRCLE,3STAR,2BLOCK,2CIRCLE,3WITH DOT,4FOUR DOTS",
   "4THREE DOTS,4TWO DOTS,2FOLDER,2INVERSE MEDIUM SHADE AND RIGHT HALF BLOCK,2MEDIUM SHADE",
   "2RUNNING MAN,1HAND TELEPHONE RECEIVER,1LOW PARAPHRASE BRACKET,1LUGGAGE,1MULTIMAP",
   "1NORMAL FACTOR SEMIDIRECT PRODUCT,1ONE EIGHTH BLOCK,2QUARTER BLOCK,1OUTER JOIN,1PARENTHESIS",
   "2EXTENSION,2LOWER HOOK,2UPPER HOOK,1RAISED OMISSION BRACKET,1RIGHT ARROW,3THROUGH SMALL CIRCLE",
   "3WITH DOUBLE VERTICAL STROKE,4STROKE,4VERTICAL STROKE,2BLACK ARROW,2DOUBLE ARROW,4WITH STROKE",
   "5VERTICAL STROKE,2OPEN-HEADED ARROW,2SANS-SERIF ARROW,2TRIANGLE-HEADED ARROW,2WAVE ARROW",
   "2WHITE ARROW,1S-SHAPED BAG DELIMITER,1SEMIDIRECT PRODUCT,1SEVEN EIGHTHS BLOCK",
   "1SIDEWAYS U BRACKET,1SINGLE QUOTATION MARK,1SPEECH BUBBLE,1SQUARE BRACKET,3EXTENSION",
   "3LOWER CORNER,3UPPER CORNER,3WITH DOUBLE STROKE,4QUILL,4STROKE,4TICK IN BOTTOM CORNER",
   "6TOP CORNER,4UNDERBAR,1SUBSTITUTION BRACKET,1TACK,1THIRD WHITE RIGHT POINTING INDEX",
   "1THOUGHT BUBBLE,1THREE EIGHTHS BLOCK,2QUARTERS BLOCK,1TORTOISE SHELL BRACKET",
   "1TRANSPOSITION BRACKET,1TRIANGLE BESIDE VERTICAL BAR,1TRIANGULAR ONE QUARTER BLOCK",
   "1VERTICAL BAR WITH QUILL,2BOX LINE,1WHITE CORNER BRACKET,2CURLY BRACKET,2LENTICULAR BRACKET",
   "2PARENTHESIS,2SQUARE BRACKET,2TORTOISE SHELL BRACKET,1WIGGLY FENCE,1WRITING HAND",
   "0LEFT-FACING ARMENIAN ETERNITY SIGN,1FIST,1SVASTI SIGN,3WITH DOTS",
   "0LEFT-HANDED INTERLACED PENTAGRAM,0LEFT-POINTING ANGLE BRACKET,1CURVED ANGLE BRACKET",
   "1DOUBLE ANGLE QUOTATION MARK,1MAGNIFYING GLASS,0LEFT-SHADED WHITE RIGHTWARDS ARROW",
   "0LEFT-SIDE ARC ANTICLOCKWISE ARROW,0LEFT-TO-RIGHT EMBEDDING,1ISOLATE,1MARK,1OVERRIDE",
   "0LEFTWARDS ARROW,2ABOVE ALMOST EQUAL TO,3REVERSE ALMOST EQUAL TO,4TILDE OPERATOR",
   "3SHORT RIGHTWARDS ARROW,3TILDE OPERATOR,2AND UPPER AND LOWER ONE EIGHTH BLOCK,2FROM BAR",
   "4TO BLACK DIAMOND,2OVER RIGHTWARDS ARROW,2THROUGH LESS-THAN,3SUBSET,3X,2TO BAR",
   "4OVER RIGHTWARDS ARROW TO BAR,3BLACK DIAMOND,2WITH DOTTED STEM,3DOUBLE VERTICAL STROKE",
   "3EQUILATERAL ARROWHEAD,3HOOK,3LARGE TRIANGLE ARROWHEAD,3LOOP,3MEDIUM TRIANGLE ARROWHEAD",
   "3NOTCHED TAIL,3PLUS BELOW,3SMALL EQUILATERAL ARROWHEAD,4TRIANGLE ARROWHEAD,3STROKE,3TAIL",
   "4WITH DOUBLE VERTICAL STROKE,5VERTICAL STROKE,3TIP DOWNWARDS,4UPWARDS,3VERTICAL STROKE",
   "1ARROW-TAIL,1BACK-TILTED SHADOWED WHITE ARROW,1BLACK ARROW,2CIRCLED WHITE ARROW",
   "1BOTTOM-SHADED WHITE ARROW,1COMPRESSED ARROW,1DASHED ARROW,1DOUBLE ARROW,3FROM BAR",
   "3WITH STROKE,4VERTICAL STROKE,2ARROW-TAIL,2DASH ARROW,1FINGER-POST ARROW",
   "1FRONT-TILTED SHADOWED WHITE ARROW,1HAND,1HARPOON OVER RIGHTWARDS HARPOON",
   "2WITH BARB DOWN ABOVE RIGHTWARDS HARPOON WITH BARB DOWN,5BELOW LONG DASH,5FROM BAR,5TO BAR",
   "4DOWNWARDS,4UP ABOVE LEFTWARDS HARPOON WITH BARB DOWN,6LONG DASH",
   "6RIGHTWARDS HARPOON WITH BARB UP,5FROM BAR,5TO BAR,4UPWARDS,1HEAVY ARROW,2COMPRESSED ARROW",
   "1LEFT-SHADED WHITE ARROW,1OPEN-HEADED ARROW,1PAIRED ARROWS,1QUADRUPLE ARROW",
   "1RIGHT-SHADED WHITE ARROW,1ROCKET,1SANS-SERIF ARROW,1SQUARED ARROW,1SQUIGGLE ARROW",
   "1TOP SHADED WHITE ARROW,1TRIANGLE ARROWHEAD,1TRIANGLE-HEADED ARROW",
   "3OVER RIGHTWARDS TRIANGLE-HEADED ARROW,3TO BAR,3WITH BOLD SHAFT,4DOUBLE HORIZONTAL STROKE",
   "5VERTICAL STROKE,4HEAVY SHAFT,4LONG TIP DOWNWARDS,6UPWARDS,4MEDIUM SHAFT,4NARROW SHAFT",
   "4VERY HEAVY SHAFT,2DASHED ARROW,2PAIRED ARROWS,1TRIPLE ARROW,2DASH ARROW,1TWO HEADED ARROW",
   "1TWO-HEADED ARROW FROM BAR,3WITH DOUBLE VERTICAL STROKE,4TAIL,5WITH DOUBLE VERTICAL STROKE",
   "6VERTICAL STROKE,4TRIANGLE ARROWHEADS,4VERTICAL STROKE,2TRIPLE DASH ARROW,1WAVE ARROW",
   "1WHITE ARROW,3WITHIN TRIANGLE ARROWHEAD,0LEG,0LEMON,0LEO,0LEOPARD,0LEPCHA CONSONANT SIGN K",
   "3KANG,3L,3M,3N,3NYIN-DO,3P,3R,3T,1DIGIT EIGHT,2FIVE,2FOUR,2NINE,2ONE,2SEVEN,2SIX,2THREE,2TWO",
   "2ZERO,1LETTER A,2BA,2BLA,2CA,2CHA,2DA,2DDA,2DZA,2FA,2FLA,2GA,2GLA,2HA,2HLA,2JA,2KA,2KHA,2KLA",
   "2LA,2MA,2MLA,2NA,2NGA,2NYA,2PA,2PHA,2PLA,2RA,2SA,2SHA,2TA,2THA,2TSA,2TSHA,2TTA,2TTHA,2VA,2WA",
   "2YA,1PUNCTUATION CER-WA,2NYET THYOOM TA-ROL,2TA-ROL,2TSHOOK,3CER-WA,1SIGN NUKTA,2RAN",
   "1SUBJOINED LETTER RA,3YA,1VOWEL SIGN AA,3E,3I,3O,3OO,3U,3UU",
   "0LESS-THAN ABOVE DOUBLE-LINE EQUAL ABOVE GREATER-THAN,2GREATER-THAN ABOVE DOUBLE-LINE EQUAL",
   "2LEFTWARDS ARROW,2SIMILAR ABOVE GREATER-THAN,3OR EQUAL",
   "2SLANTED EQUAL ABOVE GREATER-THAN ABOVE SLANTED EQUAL,1AND NOT APPROXIMATE",
   "2SINGLE-LINE NOT EQUAL TO,1BUT NOT EQUAL TO,3EQUIVALENT TO,1CLOSED BY CURVE",
   "4ABOVE SLANTED EQUAL,1EQUAL TO OR GREATER-THAN,1OR APPROXIMATE,2EQUAL TO,2EQUIVALENT TO",
   "2GREATER-THAN,2SLANTED EQUAL TO,5WITH DOT ABOVE,8RIGHT,7INSIDE,1OVER EQUAL TO,1SIGN",
   "1WITH CIRCLE INSIDE,2DOT,2QUESTION MARK ABOVE,0LEVEL SLIDER,0LF,0LIBRA",
   "0LIGATURE OPEN ET ORNAMENT,0LIGHT CHECK MARK,1EIGHT SPOKED ASTERISK,1FIVE POINTED BLACK STAR",
   "2SPOKED ASTERISK,1FOUR POINTED BLACK CUSP,4STAR,1GREEK CROSS",
   "1LEFT TORTOISE SHELL BRACKET ORNAMENT,1RAIL,1RIGHT TORTOISE SHELL BRACKET ORNAMENT,1SALTIRE",
   "1SHADE,1SIX SPOKED ASTERISK,1THREE POINTED BLACK STAR,1TWELVE POINTED BLACK STAR,1VERTICAL BAR",
   "1WHITE SQUARE,0LIGHTNING,1MOOD,2BUBBLE,0LIMBU DIGIT EIGHT,2FIVE,2FOUR,2NINE,2ONE,2SEVEN,2SIX",
   "2THREE,2TWO,2ZERO,1EXCLAMATION MARK,1LETTER BA,2BHA,2CA,2CHA,2DA,2DHA,2GA,2GHA,2GYAN,2HA,2JA",
   "2JHA,2KA,2KHA,2LA,2MA,2NA,2NGA,2PA,2PHA,2RA,2SA,2SHA,2SSA,2TA,2THA,2TRA,2WA,2YA,2YAN",
   "1QUESTION MARK,1SIGN KEMPHRENG,2LOO,2MUKPHRENG,2SA-I,1SMALL LETTER ANUSVARA,3KA,3LA,3MA,3NA",
   "3NGA,3PA,3RA,3TA,1SUBJOINED LETTER RA,3WA,3YA,1VOWEL SIGN A,3AI,3AU,3E,3EE,3I,3O,3OO,3U",
   "1VOWEL-CARRIER LETTER,0LIMITED LIABILITY SIGN,0LINE FEED,1INTEGRATION NOT INCLUDING THE POLE",
   "2WITH RECTANGULAR PATH AROUND POLE,3SEMICIRCULAR PATH AROUND POLE,1SEPARATOR,1TABULATION,2SET",
   "0LINEAR A SIGN A028B,3A100-102,3A120B,3A131C,3A301,3A302,3A303,3A304,3A305,3A306,3A307,3A308",
   "3A309A,3A309B,3A309C,3A310,3A311,3A312,3A313A,3A313B,3A313C,3A314,3A315,3A316,3A317,3A318",
   "3A319,3A320,3A321,3A322,3A323,3A324,3A325,3A326,3A327,3A328,3A329,3A330,3A331,3A332,3A333",
   "3A334,3A335,3A336,3A337,3A338,3A339,3A340,3A341,3A342,3A343,3A344,3A345,3A346,3A347,3A348",
   "3A349,3A350,3A351,3A352,3A353,3A354,3A355,3A356,3A357,3A358,3A359,3A360,3A361,3A362,3A363",
   "3A364,3A365,3A366,3A367,3A368,3A369,3A370,3A371,3A400-VAS,3A401-VAS,3A402-VAS,3A403-VAS",
   "3A404-VAS,3A405-VAS,3A406-VAS,3A407-VAS,3A408-VAS,3A409-VAS,3A410-VAS,3A411-VAS,3A412-VAS",
   "3A413-VAS,3A414-VAS,3A415-VAS,3A416-VAS,3A417-VAS,3A418-VAS,3A501,3A502,3A503,3A504,3A505",
   "3A506,3A508,3A509,3A510,3A511,3A512,3A513,3A515,3A516,3A520,3A521,3A523,3A524,3A525,3A526",
   "3A527,3A528,3A529,3A530,3A531,3A532,3A534,3A535,3A536,3A537,3A538,3A539,3A540,3A541,3A542",
   "3A545,3A547,3A548,3A549,3A550,3A551,3A552,3A553,3A554,3A555,3A556,3A557,3A559,3A563,3A564",
   "3A565,3A566,3A568,3A569,3A570,3A571,3A572,3A573,3A574,3A575,3A576,3A577,3A578,3A579,3A580",
   "3A581,3A582,3A583,3A584,3A585,3A586,3A587,3A588,3A589,3A591,3A592,3A594,3A595,3A596,3A598",
   "3A600,3A601,3A602,3A603,3A604,3A606,3A608,3A609,3A610,3A611,3A612,3A613,3A614,3A615,3A616",
   "3A617,3A618,3A619,3A620,3A621,3A622,3A623,3A624,3A626,3A627,3A628,3A629,3A634,3A637,3A638",
   "3A640,3A642,3A643,3A644,3A645,3A646,3A648,3A649,3A651,3A652,3A653,3A654,3A655,3A656,3A657",
   "3A658,3A659,3A660,3A661,3A662,3A663,3A664,3A701 A,3A702 B,3A703 D,3A704 E,3A705 F,3A706 H",
   "3A707 J,3A708 K,3A709 L,3A709-2 L2,3A709-3 L3,3A709-4 L4,3A709-6 L6,3A710 W,3A711 X,3A712 Y",
   "3A713 OMEGA,3A714 ABB,3A715 BB,3A717 DD,3A726 EYYY,3A732 JE,3A800,3A801,3A802,3A803,3A804",
   "3A805,3A806,3A807,3AB001,3AB002,3AB003,3AB004,3AB005,3AB006,3AB007,3AB008,3AB009,3AB010,3AB011",
   "3AB013,3AB016,3AB017,3AB020,3AB021,3AB021F,3AB021M,3AB022,3AB022F,3AB022M,3AB023,3AB023M",
   "3AB024,3AB026,3AB027,3AB028,3AB029,3AB030,3AB031,3AB034,3AB037,3AB038,3AB039,3AB040,3AB041",
   "3AB044,3AB045,3AB046,3AB047,3AB048,3AB049,3AB050,3AB051,3AB053,3AB054,3AB055,3AB056,3AB057",
   "3AB058,3AB059,3AB060,3AB061,3AB065,3AB066,3AB067,3AB069,3AB070,3AB073,3AB074,3AB076,3AB077",
   "3AB078,3AB079,3AB080,3AB081,3AB082,3AB085,3AB086,3AB087,3AB118,3AB120,3AB122,3AB123,3AB131A",
   "3AB131B,3AB164,3AB171,3AB180,3AB188,3AB191,1B IDEOGRAM B100 MAN,3B102 WOMAN,3B104 DEER",
   "3B105 EQUID,3B105F MARE,3B105M STALLION,3B106F EWE,3B106M RAM,3B107F SHE-GOAT,3B107M HE-GOAT",
   "3B108F SOW,3B108M BOAR,3B109F COW,3B109M BULL,3B120 WHEAT,3B121 BARLEY,3B122 OLIVE,3B123 SPICE",
   "3B125 CYPERUS,3B130 OIL,3B131 WINE,3B132,3B140 BRONZE,3B141 GOLD,3B142,3B145 WOOL,3B146,3B150",
   "3B151 HORN,3B152,3B153,3B154,3B157,3B158,3B159 CLOTH,3B160,3B161,3B162 GARMENT,3B163 ARMOUR",
   "3B164,3B165,3B166,3B167,3B168,3B169,3B170,3B171,3B172,3B173 MONTH,3B174,3B176 TREE,3B177,3B178",
   "3B179,3B180,3B181,3B182,3B183,3B184,3B185,3B189,3B190,3B191 HELMET,3B220 FOOTSTOOL",
   "3B225 BATHTUB,3B230 SPEAR,3B231 ARROW,3B232,3B233 SWORD,3B234,3B236,3B240 WHEELED CHARIOT",
   "3B241 CHARIOT,3B242 CHARIOT FRAME,3B243 WHEEL,3B245,3B246,3B248,3B249,3B251,3B252,3B253",
   "3B254 DART,3B255,3B256,3B257,3B258,3B259,3VESSEL B155,4B200,4B201,4B202,4B203,4B204,4B205",
   "4B206,4B207,4B208,4B209,4B210,4B211,4B212,4B213,4B214,4B215,4B216,4B217,4B218,4B219,4B221",
   "4B222,4B226,4B227,4B228,4B229,4B250,4B305,2MONOGRAM B127 KAPO,3B128 KANAKO,3B133 AREPA",
   "3B135 MERI,3B156 TURO2,3B247 DIPTE,2SYLLABLE B001 DA,3B002 RO,3B003 PA,3B004 TE,3B005 TO",
   "3B006 NA,3B007 DI,3B008 A,3B009 SE,3B010 U,3B011 PO,3B012 SO,3B013 ME,3B014 DO,3B015 MO",
   "3B016 QA,3B017 ZA,3B020 ZO,3B021 QI,3B023 MU,3B024 NE,3B025 A2,3B026 RU,3B027 RE,3B028 I",
   "3B029 PU2,3B030 NI,3B031 SA,3B032 QO,3B033 RA3,3B036 JO,3B037 TI,3B038 E,3B039 PI,3B040 WI",
   "3B041 SI,3B042 WO,3B043 A3,3B044 KE,3B045 DE,3B046 JE,3B048 NWA,3B050 PU,3B051 DU,3B052 NO",
   "3B053 RI,3B054 WA,3B055 NU,3B057 JA,3B058 SU,3B059 TA,3B060 RA,3B061 O,3B062 PTE,3B065 JU",
   "3B066 TA2,3B067 KI,3B068 RO2,3B069 TU,3B070 KO,3B071 DWE,3B072 PE,3B073 MI,3B074 ZE,3B075 WE",
   "3B076 RA2,3B077 KA,3B078 QE,3B080 MA,3B081 KU,3B085 AU,3B087 TWE,3B090 DWO,3B091 TWO",
   "2SYMBOL B018,3B019,3B022,3B034,3B047,3B049,3B056,3B063,3B064,3B079,3B082,3B083,3B086,3B089",
   "0LINK SYMBOL,0LINKED PAPERCLIPS,0LION FACE,0LIPS,0LIPSTICK,0LIRA SIGN,0LISU LETTER A,2AE,2BA",
   "2CA,2CHA,2DA,2DZA,2E,2EU,2FA,2GA,2GHA,2HA,2HHA,2I,2JA,2KA,2KHA,2LA,2MA,2NA,2NGA,2O,2OE,2PA",
   "2PHA,2SA,2SHA,2TA,2THA,2TONE MYA BO,4CYA,4JEU,4NA,4TI,3NA PO,2TSA,2TSHA,2U,2UE,2UH,2WA,2XA,2YA",
   "2YHA,2ZA,2ZHA,1PUNCTUATION COMMA,2FULL STOP,0LIVRE TOURNOIS SIGN,0LIZARD,0LLAMA,0LOBSTER,0LOCK",
   "1WITH INK PEN,0LOCKING-SHIFT ONE,1ZERO,0LOGICAL AND,2WITH DOT ABOVE,3DOUBLE OVERBAR,4UNDERBAR",
   "3HORIZONTAL DASH,3MIDDLE STEM,3UNDERBAR,1OR,2OVERLAPPING LOGICAL AND,2WITH DOT ABOVE",
   "3DOUBLE OVERBAR,4UNDERBAR,3HORIZONTAL DASH,3MIDDLE STEM,0LOLLIPOP",
   "0LONG DASH FROM LEFT MEMBER OF DOUBLE VERTICAL,1DIVISION,1DRUM,1LEFT RIGHT ARROW,3DOUBLE ARROW",
   "2TACK,1LEFTWARDS ARROW,3FROM BAR,2DOUBLE ARROW,4FROM BAR,2SQUIGGLE ARROW,1RIGHT TACK",
   "1RIGHTWARDS ARROW,3FROM BAR,2DOUBLE ARROW,4FROM BAR,2SQUIGGLE ARROW,0LOTION BOTTLE,0LOTUS",
   "0LOUDLY CRYING FACE,0LOVE HOTEL,1LETTER,0LOW ASTERISK,1BATTERY,1BRIGHTNESS SYMBOL",
   "1DOUBLE PRIME QUOTATION MARK,1KAVYKA,2WITH DOT,1LINE,0LOWER BLADE SCISSORS,1FIVE EIGHTHS BLOCK",
   "1HALF BLOCK,2CIRCLE,2INVERSE WHITE CIRCLE,2MEDIUM SHADE,1LEFT BALLPOINT PEN",
   "2BLOCK DIAGONAL LOWER MIDDLE LEFT TO LOWER CENTRE,9RIGHT,4UPPER CENTRE TO LOWER MIDDLE RIGHT",
   "8RIGHT,7UPPER MIDDLE RIGHT,5LEFT TO LOWER CENTRE,8MIDDLE RIGHT,7UPPER MIDDLE RIGHT",
   "5MIDDLE LEFT TO LOWER CENTRE,9MIDDLE RIGHT,9RIGHT,2CRAYON,2FOUNTAIN PEN,2PAINTBRUSH,2PENCIL",
   "2QUADRANT CIRCULAR ARC,2SEMICIRCULAR ANTICLOCKWISE ARROW,2TRIANGLE,2TRIANGULAR MEDIUM SHADE",
   "1ONE EIGHTH BLOCK,2QUARTER BLOCK,1RIGHT BLOCK DIAGONAL LOWER CENTRE TO LOWER MIDDLE RIGHT",
   "7UPPER MIDDLE RIGHT,8RIGHT,5LEFT TO LOWER MIDDLE RIGHT,7UPPER CENTRE,8MIDDLE RIGHT",
   "5MIDDLE LEFT TO UPPER CENTRE,9MIDDLE RIGHT,9RIGHT,4UPPER MIDDLE LEFT TO UPPER CENTRE,9RIGHT",
   "2CORNER WITH DOT,2DROP-SHADOWED WHITE SQUARE,2PENCIL,2QUADRANT CIRCULAR ARC",
   "2SEMICIRCULAR CLOCKWISE ARROW,2SHADOWED WHITE CIRCLE,4SQUARE,2TRIANGLE",
   "2TRIANGULAR MEDIUM SHADE,1SEVEN EIGHTHS BLOCK,1THREE EIGHTHS BLOCK,2QUARTERS BLOCK",
   "1TRIANGULAR ONE QUARTER BLOCK,0LOZENGE,1DIVIDED BY HORIZONTAL RULE,0LRE,0LRI,0LRM,0LRO",
   "0LUGGAGE,0LUNGS,0LYCIAN LETTER A,2AN,2B,2BH,2D,2E,2EN,2G,2H,2I,2J,2K,2KK,2L,2M,2MM,2N,2NN,2P",
   "2Q,2R,2S,2T,2TH,2TT,2U,2W,2X,2Z,0LYDIAN LETTER A,2AN,2B,2C,2D,2E,2EN,2F,2G,2I,2K,2L,2LY,2M,2N",
   "2NN,2O,2Q,2R,2S,2SS,2T,2TT,2U,2V,2Y,1TRIANGULAR MARK,0LYING FACE"]

end Text
end Typings
