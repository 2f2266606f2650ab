/-!
# Names of characters from M to Q

`Text.namesFromMToQ` holds names in rows of entries with commas between them. An entry starts with
a hexadecimal digit, the number of words that it shares with the name in front of it; its other
words follow.
-/

namespace Typings
namespace Text

def namesFromMToQ : List String :=
  ["0MACRON,0MAGE,0MAGIC WAND,0MAGNET,0MAHAJANI ABBREVIATION SIGN,1LETTER A,2BA,2BHA,2CA,2CHA,2DA",
   "2DDA,2DDHA,2DHA,2E,2GA,2GHA,2HA,2I,2JA,2JHA,2KA,2KHA,2LA,2MA,2NA,2NNA,2NYA,2O,2PA,2PHA,2RA",
   "2RRA,2SA,2TA,2THA,2TTA,2TTHA,2U,2VA,1LIGATURE SHRI,1SECTION MARK,1SIGN NUKTA",
   "0MAHJONG TILE AUTUMN,2BACK,2BAMBOO,2CHRYSANTHEMUM,2EAST WIND,2EIGHT OF BAMBOOS,4CHARACTERS",
   "4CIRCLES,2FIVE OF BAMBOOS,4CHARACTERS,4CIRCLES,2FOUR OF BAMBOOS,4CHARACTERS,4CIRCLES",
   "2GREEN DRAGON,2JOKER,2NINE OF BAMBOOS,4CHARACTERS,4CIRCLES,2NORTH WIND,2ONE OF BAMBOOS",
   "4CHARACTERS,4CIRCLES,2ORCHID,2PLUM,2RED DRAGON,2SEVEN OF BAMBOOS,4CHARACTERS,4CIRCLES",
   "2SIX OF BAMBOOS,4CHARACTERS,4CIRCLES,2SOUTH WIND,2SPRING,2SUMMER,2THREE OF BAMBOOS,4CHARACTERS",
   "4CIRCLES,2TWO OF BAMBOOS,4CHARACTERS,4CIRCLES,2WEST WIND,2WHITE DRAGON,2WINTER,0MAKASAR ANGKA",
   "1END OF SECTION,1LETTER A,2BA,2CA,2DA,2GA,2JA,2KA,2LA,2MA,2NA,2NGA,2NYA,2PA,2RA,2SA,2TA,2VA",
   "2YA,1PASSIMBANG,1VOWEL SIGN E,3I,3O,3U,0MALAYALAM AU LENGTH MARK,1DATE MARK,1DIGIT EIGHT,2FIVE",
   "2FOUR,2NINE,2ONE,2SEVEN,2SIX,2THREE,2TWO,2ZERO,1FRACTION ONE EIGHTH,3FIFTH,3FORTIETH,3HALF",
   "3ONE-HUNDRED-AND-SIXTIETH,3QUARTER,3SIXTEENTH,3TENTH,3TWENTIETH,2THREE EIGHTIETHS,3QUARTERS",
   "3SIXTEENTHS,3TWENTIETHS,1LETTER A,2AA,2AI,2ARCHAIC II,2AU,2BA,2BHA,2CA,2CHA,2CHILLU K,3L,3LL",
   "3LLL,3M,3N,3NN,3RR,3Y,2DA,2DDA,2DDHA,2DHA,2DOT REPH,2E,2EE,2GA,2GHA,2HA,2I,2II,2JA,2JHA,2KA",
   "2KHA,2LA,2LLA,2LLLA,2MA,2NA,2NGA,2NNA,2NNNA,2NYA,2O,2OO,2PA,2PHA,2RA,2RRA,2SA,2SHA,2SSA,2TA",
   "2THA,2TTA,2TTHA,2TTTA,2U,2UU,2VA,2VEDIC ANUSVARA,2VOCALIC L,3LL,3R,3RR,2YA,1NUMBER ONE HUNDRED",
   "3THOUSAND,2TEN,1SIGN ANUSVARA,2AVAGRAHA,2CANDRABINDU,2CIRCULAR VIRAMA",
   "2COMBINING ANUSVARA ABOVE,2PARA,2VERTICAL BAR VIRAMA,2VIRAMA,2VISARGA,1VOWEL SIGN AA,3AI,3AU",
   "3E,3EE,3I,3II,3O,3OO,3U,3UU,3VOCALIC L,4LL,4R,4RR,0MALE AND FEMALE SIGN,1SIGN",
   "1WITH STROKE AND MALE AND FEMALE SIGN,3SIGN,0MALTESE CROSS,0MAMMOTH,0MAN",
   "1AND WOMAN HOLDING HANDS,1DANCING,1IN BUSINESS SUIT LEVITATING,2TUXEDO,1WITH GUA PI MAO",
   "2TURBAN,0MANAT SIGN,0MANDAIC AFFRICATION MARK,1GEMINATION MARK,1LETTER AB,2AD,2AG,2AH,2AIN,2AK",
   "2AKSA,2AL,2AM,2AN,2AP,2AQ,2AR,2AS,2ASH,2ASZ,2AT,2ATT,2AZ,2DUSHENNA,2HALQA,2IN,2IT,2KAD",
   "2USHENNA,1PUNCTUATION,1VOCALIZATION MARK,0MANGO,0MANICHAEAN ABBREVIATION MARK ABOVE,3BELOW",
   "1LETTER AAYIN,2ALEPH,2AYIN,2BETH,2BHETH,2DALETH,2DHAMEDH,2FE,2GHIMEL,2GIMEL,2HE,2HETH,2JAYIN",
   "2JHAYIN,2KAPH,2KHAPH,2LAMEDH,2MEM,2NUN,2PE,2QHOPH,2QOPH,2RESH,2SADHE,2SAMEKH,2SHIN,2SSHIN,2TAW",
   "2TETH,2THAMEDH,2WAW,2XAPH,2XOPH,2YODH,2ZAYIN,2ZHAYIN,1NUMBER FIVE,2ONE,3HUNDRED,2TEN,2TWENTY",
   "1PUNCTUATION DOT,3WITHIN DOT,2DOUBLE DOT WITHIN DOT,2FLEURON,2LINE FILLER,2STAR,2TWO DOTS",
   "1SIGN UD,0MANS SHOE,0MANTELPIECE CLOCK,0MANUAL WHEELCHAIR,0MAP SYMBOL FOR LIGHTHOUSE",
   "0MAPLE LEAF,0MARCHEN HEAD MARK,1LETTER -A,2A,2BA,2CA,2CHA,2DA,2DZA,2GA,2HA,2JA,2KA,2KHA,2LA",
   "2MA,2NA,2NGA,2NYA,2PA,2PHA,2RA,2SA,2SHA,2TA,2THA,2TSA,2TSHA,2WA,2YA,2ZA,2ZHA,1MARK SHAD",
   "1SIGN ANUSVARA,2CANDRABINDU,1SUBJOINED LETTER A,3BA,3CA,3CHA,3DA,3DZA,3GA,3HA,3JA,3KA,3KHA,3LA",
   "3MA,3NA,3NGA,3NYA,3PA,3PHA,3RA,3SA,3SHA,3TA,3THA,3TSA,3TSHA,3WA,3YA,3ZA,3ZHA,1VOWEL SIGN AA,3E",
   "3I,3O,3U,0MARRIAGE SYMBOL,0MARTIAL ARTS UNIFORM,0MASARAM GONDI DIGIT EIGHT,3FIVE,3FOUR,3NINE",
   "3ONE,3SEVEN,3SIX,3THREE,3TWO,3ZERO,2LETTER A,3AA,3AI,3AU,3BA,3BHA,3CA,3CHA,3DA,3DDA,3DDHA,3DHA",
   "3E,3GA,3GHA,3HA,3I,3II,3JA,3JHA,3JNYA,3KA,3KHA,3KSSA,3LA,3LLA,3MA,3NA,3NGA,3NNA,3NYA,3O,3PA",
   "3PHA,3RA,3SA,3SHA,3SSA,3TA,3THA,3TRA,3TTA,3TTHA,3U,3UU,3VA,3YA,2RA-KARA,2REPHA,2SIGN ANUSVARA",
   "3CANDRA,3HALANTA,3NUKTA,3VISARGA,2VIRAMA,2VOWEL SIGN AA,4AI,4AU,4E,4I,4II,4O,4U,4UU,4VOCALIC R",
   "0MASCULINE ORDINAL INDICATOR,0MASK WORK SYMBOL,0MASU MARK,0MATE DRINK",
   "0MATHEMATICAL BOLD CAPITAL A,3ALPHA,3B,3BETA,3C,3CHI,3D,3DELTA,3DIGAMMA,3E,3EPSILON,3ETA,3F,3G",
   "3GAMMA,3H,3I,3IOTA,3J,3K,3KAPPA,3L,3LAMDA,3M,3MU,3N,3NU,3O,3OMEGA,3OMICRON,3P,3PHI,3PI,3PSI,3Q",
   "3R,3RHO,3S,3SIGMA,3T,3TAU,3THETA,4SYMBOL,3U,3UPSILON,3V,3W,3X,3XI,3Y,3Z,3ZETA,2DIGIT EIGHT",
   "3FIVE,3FOUR,3NINE,3ONE,3SEVEN,3SIX,3THREE,3TWO,3ZERO,2EPSILON SYMBOL,2FRAKTUR CAPITAL A,4B,4C",
   "4D,4E,4F,4G,4H,4I,4J,4K,4L,4M,4N,4O,4P,4Q,4R,4S,4T,4U,4V,4W,4X,4Y,4Z,3SMALL A,4B,4C,4D,4E,4F",
   "4G,4H,4I,4J,4K,4L,4M,4N,4O,4P,4Q,4R,4S,4T,4U,4V,4W,4X,4Y,4Z,2ITALIC CAPITAL A,4ALPHA,4B,4BETA",
   "4C,4CHI,4D,4DELTA,4E,4EPSILON,4ETA,4F,4G,4GAMMA,4H,4I,4IOTA,4J,4K,4KAPPA,4L,4LAMDA,4M,4MU,4N",
   "4NU,4O,4OMEGA,4OMICRON,4P,4PHI,4PI,4PSI,4Q,4R,4RHO,4S,4SIGMA,4T,4TAU,4THETA,5SYMBOL,4U",
   "4UPSILON,4V,4W,4X,4XI,4Y,4Z,4ZETA,3EPSILON SYMBOL,3KAPPA SYMBOL,3NABLA,3PARTIAL DIFFERENTIAL",
   "3PHI SYMBOL,3PI SYMBOL,3RHO SYMBOL,3SMALL A,4ALPHA,4B,4BETA,4C,4CHI,4D,4DELTA,4E,4EPSILON,4ETA",
   "4F,4FINAL SIGMA,4G,4GAMMA,4H,4I,4IOTA,4J,4K,4KAPPA,4L,4LAMDA,4M,4MU,4N,4NU,4O,4OMEGA,4OMICRON",
   "4P,4PHI,4PI,4PSI,4Q,4R,4RHO,4S,4SIGMA,4T,4TAU,4THETA,4U,4UPSILON,4V,4W,4X,4XI,4Y,4Z,4ZETA",
   "3THETA SYMBOL,2KAPPA SYMBOL,2NABLA,2PARTIAL DIFFERENTIAL,2PHI SYMBOL,2PI SYMBOL,2RHO SYMBOL",
   "2SCRIPT CAPITAL A,4B,4C,4D,4E,4F,4G,4H,4I,4J,4K,4L,4M,4N,4O,4P,4Q,4R,4S,4T,4U,4V,4W,4X,4Y,4Z",
   "3SMALL A,4B,4C,4D,4E,4F,4G,4H,4I,4J,4K,4L,4M,4N,4O,4P,4Q,4R,4S,4T,4U,4V,4W,4X,4Y,4Z,2SMALL A",
   "3ALPHA,3B,3BETA,3C,3CHI,3D,3DELTA,3DIGAMMA,3E,3EPSILON,3ETA,3F,3FINAL SIGMA,3G,3GAMMA,3H,3I",
   "3IOTA,3J,3K,3KAPPA,3L,3LAMDA,3M,3MU,3N,3NU,3O,3OMEGA,3OMICRON,3P,3PHI,3PI,3PSI,3Q,3R,3RHO,3S",
   "3SIGMA,3T,3TAU,3THETA,3U,3UPSILON,3V,3W,3X,3XI,3Y,3Z,3ZETA,2THETA SYMBOL",
   "1DOUBLE-STRUCK CAPITAL A,3B,3D,3E,3F,3G,3I,3J,3K,3L,3M,3O,3S,3T,3U,3V,3W,3X,3Y,2DIGIT EIGHT",
   "3FIVE,3FOUR,3NINE,3ONE,3SEVEN,3SIX,3THREE,3TWO,3ZERO,2SMALL A,3B,3C,3D,3E,3F,3G,3H,3I,3J,3K,3L",
   "3M,3N,3O,3P,3Q,3R,3S,3T,3U,3V,3W,3X,3Y,3Z,1FALLING DIAGONAL,1FRAKTUR CAPITAL A,3B,3D,3E,3F,3G",
   "3J,3K,3L,3M,3N,3O,3P,3Q,3S,3T,3U,3V,3W,3X,3Y,2SMALL A,3B,3C,3D,3E,3F,3G,3H,3I,3J,3K,3L,3M,3N",
   "3O,3P,3Q,3R,3S,3T,3U,3V,3W,3X,3Y,3Z,1ITALIC CAPITAL A,3ALPHA,3B,3BETA,3C,3CHI,3D,3DELTA,3E",
   "3EPSILON,3ETA,3F,3G,3GAMMA,3H,3I,3IOTA,3J,3K,3KAPPA,3L,3LAMDA,3M,3MU,3N,3NU,3O,3OMEGA,3OMICRON",
   "3P,3PHI,3PI,3PSI,3Q,3R,3RHO,3S,3SIGMA,3T,3TAU,3THETA,4SYMBOL,3U,3UPSILON,3V,3W,3X,3XI,3Y,3Z",
   "3ZETA,2EPSILON SYMBOL,2KAPPA SYMBOL,2NABLA,2PARTIAL DIFFERENTIAL,2PHI SYMBOL,2PI SYMBOL",
   "2RHO SYMBOL,2SMALL A,3ALPHA,3B,3BETA,3C,3CHI,3D,3DELTA,3DOTLESS I,4J,3E,3EPSILON,3ETA,3F",
   "3FINAL SIGMA,3G,3GAMMA,3I,3IOTA,3J,3K,3KAPPA,3L,3LAMDA,3M,3MU,3N,3NU,3O,3OMEGA,3OMICRON,3P",
   "3PHI,3PI,3PSI,3Q,3R,3RHO,3S,3SIGMA,3T,3TAU,3THETA,3U,3UPSILON,3V,3W,3X,3XI,3Y,3Z,3ZETA",
   "2THETA SYMBOL,1LEFT ANGLE BRACKET,2DOUBLE ANGLE BRACKET,2FLATTENED PARENTHESIS",
   "2WHITE SQUARE BRACKET,3TORTOISE SHELL BRACKET,1MONOSPACE CAPITAL A,3B,3C,3D,3E,3F,3G,3H,3I,3J",
   "3K,3L,3M,3N,3O,3P,3Q,3R,3S,3T,3U,3V,3W,3X,3Y,3Z,2DIGIT EIGHT,3FIVE,3FOUR,3NINE,3ONE,3SEVEN",
   "3SIX,3THREE,3TWO,3ZERO,2SMALL A,3B,3C,3D,3E,3F,3G,3H,3I,3J,3K,3L,3M,3N,3O,3P,3Q,3R,3S,3T,3U,3V",
   "3W,3X,3Y,3Z,1RIGHT ANGLE BRACKET,2DOUBLE ANGLE BRACKET,2FLATTENED PARENTHESIS",
   "2WHITE SQUARE BRACKET,3TORTOISE SHELL BRACKET,1RISING DIAGONAL,1SANS-SERIF BOLD CAPITAL A",
   "4ALPHA,4B,4BETA,4C,4CHI,4D,4DELTA,4E,4EPSILON,4ETA,4F,4G,4GAMMA,4H,4I,4IOTA,4J,4K,4KAPPA,4L",
   "4LAMDA,4M,4MU,4N,4NU,4O,4OMEGA,4OMICRON,4P,4PHI,4PI,4PSI,4Q,4R,4RHO,4S,4SIGMA,4T,4TAU,4THETA",
   "5SYMBOL,4U,4UPSILON,4V,4W,4X,4XI,4Y,4Z,4ZETA,3DIGIT EIGHT,4FIVE,4FOUR,4NINE,4ONE,4SEVEN,4SIX",
   "4THREE,4TWO,4ZERO,3EPSILON SYMBOL,3ITALIC CAPITAL A,5ALPHA,5B,5BETA,5C,5CHI,5D,5DELTA,5E",
   "5EPSILON,5ETA,5F,5G,5GAMMA,5H,5I,5IOTA,5J,5K,5KAPPA,5L,5LAMDA,5M,5MU,5N,5NU,5O,5OMEGA,5OMICRON",
   "5P,5PHI,5PI,5PSI,5Q,5R,5RHO,5S,5SIGMA,5T,5TAU,5THETA,6SYMBOL,5U,5UPSILON,5V,5W,5X,5XI,5Y,5Z",
   "5ZETA,4EPSILON SYMBOL,4KAPPA SYMBOL,4NABLA,4PARTIAL DIFFERENTIAL,4PHI SYMBOL,4PI SYMBOL",
   "4RHO SYMBOL,4SMALL A,5ALPHA,5B,5BETA,5C,5CHI,5D,5DELTA,5E,5EPSILON,5ETA,5F,5FINAL SIGMA,5G",
   "5GAMMA,5H,5I,5IOTA,5J,5K,5KAPPA,5L,5LAMDA,5M,5MU,5N,5NU,5O,5OMEGA,5OMICRON,5P,5PHI,5PI,5PSI,5Q",
   "5R,5RHO,5S,5SIGMA,5T,5TAU,5THETA,5U,5UPSILON,5V,5W,5X,5XI,5Y,5Z,5ZETA,4THETA SYMBOL",
   "3KAPPA SYMBOL,3NABLA,3PARTIAL DIFFERENTIAL,3PHI SYMBOL,3PI SYMBOL,3RHO SYMBOL,3SMALL A,4ALPHA",
   "4B,4BETA,4C,4CHI,4D,4DELTA,4E,4EPSILON,4ETA,4F,4FINAL SIGMA,4G,4GAMMA,4H,4I,4IOTA,4J,4K,4KAPPA",
   "4L,4LAMDA,4M,4MU,4N,4NU,4O,4OMEGA,4OMICRON,4P,4PHI,4PI,4PSI,4Q,4R,4RHO,4S,4SIGMA,4T,4TAU",
   "4THETA,4U,4UPSILON,4V,4W,4X,4XI,4Y,4Z,4ZETA,3THETA SYMBOL,2CAPITAL A,3B,3C,3D,3E,3F,3G,3H,3I",
   "3J,3K,3L,3M,3N,3O,3P,3Q,3R,3S,3T,3U,3V,3W,3X,3Y,3Z,2DIGIT EIGHT,3FIVE,3FOUR,3NINE,3ONE,3SEVEN",
   "3SIX,3THREE,3TWO,3ZERO,2ITALIC CAPITAL A,4B,4C,4D,4E,4F,4G,4H,4I,4J,4K,4L,4M,4N,4O,4P,4Q,4R,4S",
   "4T,4U,4V,4W,4X,4Y,4Z,3SMALL A,4B,4C,4D,4E,4F,4G,4H,4I,4J,4K,4L,4M,4N,4O,4P,4Q,4R,4S,4T,4U,4V",
   "4W,4X,4Y,4Z,2SMALL A,3B,3C,3D,3E,3F,3G,3H,3I,3J,3K,3L,3M,3N,3O,3P,3Q,3R,3S,3T,3U,3V,3W,3X,3Y",
   "3Z,1SCRIPT CAPITAL A,3C,3D,3G,3J,3K,3N,3O,3P,3Q,3S,3T,3U,3V,3W,3X,3Y,3Z,2SMALL A,3B,3C,3D,3F",
   "3H,3I,3J,3K,3L,3M,3N,3P,3Q,3R,3S,3T,3U,3V,3W,3X,3Y,3Z,0MAXIMIZE,0MAYAN NUMERAL EIGHT,2EIGHTEEN",
   "2ELEVEN,2FIFTEEN,2FIVE,2FOUR,2FOURTEEN,2NINE,2NINETEEN,2ONE,2SEVEN,2SEVENTEEN,2SIX,2SIXTEEN",
   "2TEN,2THIRTEEN,2THREE,2TWELVE,2TWO,2ZERO,0MEASURED ANGLE,2OPENING LEFT",
   "2WITH OPEN ARM ENDING IN ARROW POINTING DOWN AND LEFT,bRIGHT,9LEFT AND DOWN,bUP",
   "9RIGHT AND DOWN,bUP,9UP AND LEFT,bRIGHT,1BY,1RIGHT ANGLE WITH DOT,0MEAT ON BONE",
   "0MECHANICAL ARM,1LEG,0MEDEFAIDRIN CAPITAL LETTER A,3AI,3ATIU,3B,3C,3D,3E,3F,3G,3H,3HP,3I,3J,3K",
   "3KP,3L,3M,3N,3NG,3NY,3O,3OE,3P,3Q,3R,3S,3T,3U,3V,3W,3X,3Y,3YU,3Z,1COMMA,1DIGIT EIGHT,2FIVE",
   "2FOUR,2NINE,2ONE,3ALTERNATE FORM,2SEVEN,2SIX,2THREE,3ALTERNATE FORM,2TWO,3ALTERNATE FORM,2ZERO",
   "1EXCLAMATION OH,1FULL STOP,1NUMBER EIGHTEEN,2ELEVEN,2FIFTEEN,2FOURTEEN,2NINETEEN,2SEVENTEEN",
   "2SIXTEEN,2TEN,2THIRTEEN,2TWELVE,1SMALL LETTER A,3AI,3ATIU,3B,3C,3D,3E,3F,3G,3H,3HP,3I,3J,3K",
   "3KP,3L,3M,3N,3NG,3NY,3O,3OE,3P,3Q,3R,3S,3T,3U,3V,3W,3X,3Y,3YU,3Z,1SYMBOL AIVA,0MEDIEVAL COMMA",
   "1EXCLAMATION MARK,1QUESTION MARK,0MEDIUM BLACK CIRCLE,1BOLD WHITE CIRCLE",
   "1EIGHT POINTED BLACK STAR,2SPOKED ASTERISK,1FIVE SPOKED ASTERISK",
   "1FLATTENED LEFT PARENTHESIS ORNAMENT,2RIGHT PARENTHESIS ORNAMENT,1FOUR POINTED BLACK STAR",
   "3PINWHEEL STAR,1GREEK CROSS,1LEFT CURLY BRACKET ORNAMENT,2PARENTHESIS ORNAMENT",
   "1LEFT-POINTING ANGLE BRACKET ORNAMENT,1MATHEMATICAL SPACE,1RIGHT CURLY BRACKET ORNAMENT",
   "2PARENTHESIS ORNAMENT,1RIGHT-POINTING ANGLE BRACKET ORNAMENT,1SALTIRE,1SHADE",
   "1SIX POINTED BLACK STAR,2SPOKED ASTERISK,1SMALL WHITE CIRCLE,1THREE POINTED BLACK STAR",
   "3PINWHEEL STAR,1VERTICAL BAR,1WHITE CIRCLE,2SQUARE,0MEETEI MAYEK AHANG KHUDAM,2ANJI,2APUN IYEK",
   "2CHEIKHAN,2CHEIKHEI,2DIGIT EIGHT,3FIVE,3FOUR,3NINE,3ONE,3SEVEN,3SIX,3THREE,3TWO,3ZERO",
   "2LETTER ATIYA,3BA,3BHAM,3CHA,3CHIL,3DDA,3DDHA,3DHOU,3DIL,3E,3GHOU,3GOK,3HUK,3I,4LONSUM,3JHAM",
   "3JIL,3KHOU,3KOK,4LONSUM,3LAI,4LONSUM,3MIT,4LONSUM,3NA,4LONSUM,3NGOU,4LONSUM,3NNA,3NYA,3O,3PA",
   "4LONSUM,3PHAM,3RAI,3SAM,3SHA,3SSA,3THOU,3TIL,4LONSUM,3TTA,3TTHA,3UN,3WAI,3YANG,2LUM IYEK",
   "2SYLLABLE REPETITION MARK,2VIRAMA,2VOWEL SIGN AAI,4AAU,4ANAP,4AU,4CHEINAP,4II,4INAP,4NUNG",
   "4ONAP,4SOUNAP,4UNAP,4UU,4VISARGA,4YENAP,2WORD REPETITION MARK,0MELON,0MELTING FACE,0MEMO",
   "0MENDE KIKAKUI COMBINING NUMBER HUNDRED THOUSANDS,4HUNDREDS,4MILLIONS,4TEENS,4TEN THOUSANDS",
   "4TENS,4THOUSANDS,2DIGIT EIGHT,3FIVE,3FOUR,3NINE,3ONE,3SEVEN,3SIX,3THREE,3TWO,2SYLLABLE M001 KI",
   "3M002 KA,3M003 KU,3M004 WI,3M005 WA,3M006 WU,3M007 MIN,3M008 MAN,3M009 MUN,3M010 BI,3M011 BA",
   "3M012 BU,3M013 I,3M014 A,3M015 U,3M016 DI,3M017 DA,3M018 DU,3M019 SI,3M020 SA,3M021 SU",
   "3M022 TI,3M023 TA,3M024 TU,3M025 LI,3M026 LA,3M027 LU,3M028 JI,3M029 JA,3M030 JU,3M031 YI",
   "3M032 YA,3M033 YU,3M034 FI,3M035 FA,3M036 FU,3M037 NIN,3M038 NAN,3M039 NUN,3M040 HEE,3M041 HA",
   "3M042 HOO,3M043 NGGA,3M044 KPEE,3M045 WO,3M046 HUAN,3M047 MBEE,3M048 KO,3M049 WVA,3M050 PU",
   "3M051 PE,3M052 HEN,3M053 HIN,3M054 LOO,3M055 TE,3M056 GBA,3M057 NGON,3M058 NYAN,3M059 MEN",
   "3M060 NYON,3M061 WVI,3M062 MBA,3M063 JO,3M064 NDO,3M065 KEE,3M066 PO,3M067 NDOO,3M068 PI",
   "3M069 TO,3M070 GBO,3M071 GBOO,3M072 MBE,3M073 LE,3M074 KPU,3M075 FE,3M076 KOO,3M077 VO",
   "3M078 FEE,3M079 SO,3M080 YE,3M081 PEE,3M082 NGGU,3M083 HEEI,3M084 LEE,3M085 VE,3M086 LONG NGGE",
   "3M087 HUN,3M088 FO,3M089 DEE,3M090 NGGI,3M091 TEE,3M092 KPA,3M093 GBEE,3M094 MON,3M095 KE",
   "3M096 HE,3M097 BE,3M098 NYEN,3M099 PA,3M100 E,3M101 FAN,3M102 POO,3M103 BOO,3M104 TOO",
   "3M105 LONG MBOO,3M106 LONG NGGOO,3M107 GBE,3M108 KPE,3M109 YEE,3M110 LONG LE,3M111 GA",
   "3M112 KPOO,3M113 JE,3M114 WOO,3M115 NGGEE,3M116 SE,3M117 NEN,3M118 WE,3M119 NDE,3M120 NGGO",
   "3M121 YO,3M122 MBU,3M123 NDI,3M124 GBI,3M125 NDU,3M126 WEE,3M127 NGGUA,3M128 HOOU,3M129 NDA",
   "3M130 HAN,3M131 IN,3M132 KPI,3M133 FOO,3M134 NJOO,3M135 IN,3M136 SOO,3M137 EI,3M138 BO",
   "3M139 WVE,3M140 HO,3M141 YOO,3M142 LONG MBO,3M143 WEI,3M144 VOO,3M145 MBI,3M146 NGGE,3M147 O",
   "3M148 GBU,3M149 NJEE,3M150 BEE,3M151 VU,3M152 NJA,3M153 LO,3M154 MUAN,3M155 GI,3M156 NGGOO",
   "3M157 JEE,3M158 KPO,3M159 NGGAA,3M160 JOO,3M161 LONG MBE,3M162 SEE,3M163 EE,3M164 NYIN",
   "3M165 OO,3M166 GUEI,3M167 GUAN,3M168 GU,3M169 NON,3M170 NYUN,3M171 RA,3M172 MBOO,3M173 VEE",
   "3M174 MBO,3M175 LONG JO,3M176 HI,3M177 NGUAN,3M178 EN,3M179 KUA,3M180 DOO,3M181 DO,3M182 VI",
   "3M183 LONG NGGO,3M184 NGEN,3M185 VA,3M186 HU,3M187 MBUU,3M188 MBEE,3M189 MUEN,3M190 GEE",
   "3M191 NDEE,3M192 NJU,3M193 HON,3M194 WUI,3M195 AN,3M196 SIA,3M197 FUA",
   "0MENORAH WITH NINE BRANCHES,0MENS SYMBOL,0MERCURY,0MEROITIC CURSIVE FRACTION EIGHT TWELFTHS",
   "3ELEVEN TWELFTHS,3FIVE TWELFTHS,3FOUR TWELFTHS,3NINE TWELFTHS,3ONE HALF,4TWELFTH",
   "3SEVEN TWELFTHS,3SIX TWELFTHS,3TEN TWELFTHS,3THREE TWELFTHS,3TWO TWELFTHS,2LETTER A",
   "3ARCHAIC SA,3BA,3DA,3E,3HHA,3I,3KA,3KHA,3LA,3MA,3NA,3NE,3O,3PA,3QA,3RA,3SA,3SE,3TA,3TE,3TO,3WA",
   "3YA,2LOGOGRAM IMN,3RMT,2NUMBER EIGHT,4HUNDRED,5THOUSAND,4THOUSAND,3EIGHTY THOUSAND,3FIFTY",
   "4THOUSAND,3FIVE,4HUNDRED,5THOUSAND,4THOUSAND,3FORTY,4THOUSAND,3FOUR,4HUNDRED,5THOUSAND",
   "4THOUSAND,3NINE,4HUNDRED,5THOUSAND,4THOUSAND,3NINETY THOUSAND,3ONE,4HUNDRED,5THOUSAND",
   "4THOUSAND,3SEVEN,4HUNDRED,5THOUSAND,4THOUSAND,3SEVENTY,4THOUSAND,3SIX,4HUNDRED,5THOUSAND",
   "4THOUSAND,3SIXTY,4THOUSAND,3TEN,4THOUSAND,3THIRTY,4THOUSAND,3THREE,4HUNDRED,5THOUSAND",
   "4THOUSAND,3TWENTY,4THOUSAND,3TWO,4HUNDRED,5THOUSAND,4THOUSAND,1HIEROGLYPHIC LETTER A,3BA,3BA-2",
   "3DA,3E,3HHA,3I,3KA,3KHA,3LA,3MA,3NA,3NA-2,3NE,3NE-2,3O,3PA,3QA,3RA,3RA-2,3SA,3SA-2,3SE,3TA",
   "3TA-2,3TE,3TE-2,3TO,3WA,3YA,2SYMBOL VIDJ,3VIDJ-2,0MERPERSON,0MESSAGE WAITING,0METRICAL BREVE",
   "1LONG OVER SHORT,3TWO SHORTS,1PENTASEME,1SHORT OVER LONG,1TETRASEME,1TRISEME",
   "1TWO SHORTS JOINED,3OVER LONG,0METRO,0MIAO LETTER AH,2ARCHAIC MA,3NA,3NGA,3ZZA,2BA,2BRI,2DA",
   "2DDA,2DLHA,2DLHYA,2DZA,2DZHA,2DZYI,2DZZA,2FA,2GA,2GHA,2GHHA,2HA,2HHA,2KA,2LA,2LHA,2LHYA,2LYA",
   "2MA,2MHA,2NA,2NASALIZATION,2NGA,2NGHA,2NHA,2NNA,2NNHA,2NYA,2NYHA,2PA,2PLA,2QA,2QGA",
   "2REFORMED TONE-1,3TONE-2,3TONE-4,3TONE-5,3TONE-6,3TONE-8,3TSHA,2RTE,2SA,2SHA,2SSA,2SYI,2TA,2TE",
   "2TLHA,2TLHYA,2TONE-2,2TONE-3,2TONE-4,2TONE-5,2TONE-6,2TONE-7,2TONE-8,2TSA,2TSE,2TSHA,2TSSA",
   "2TTA,2VA,2VFA,2WA,2XA,2YI DZHA,3KA,3NNA,3PA,3TA,3TSA,3TSHA,3TTA,2ZA,2ZHA,2ZSA,2ZSHA,2ZZA,2ZZSA",
   "2ZZSYA,2ZZYA,1SIGN ASPIRATION,2CONSONANT MODIFIER BAR,2REFORMED ASPIRATION,3VOICING",
   "1TONE ABOVE,2BELOW,2RIGHT,2TOP RIGHT,1VOWEL SIGN A,3AA,3AE,3AEE,3AHH,3AI,3AN,3ANG,3AU,3E,3EA",
   "3EI,3EN,3ENG,3ER,3ERR,3I,3IA,3IAN,3IANG,3IE,3IG,3II,3ING,3IO,3IONG,3IU,3N,3NG,3O,3OER,3OEY,3OG",
   "3OO,3OU,3ROUNDED ER,4ERR,3U,3UA,3UAN,3UANG,3UEI,3UI,3UNG,3UOG,3UU,3VW,3W,3WO,3Y,3YI,3YUI",
   "0MICR DASH SYMBOL,1ON US SYMBOL,0MICRO SIGN,0MICROBE,0MICROPHONE,0MICROSCOPE,0MIDDLE DOT",
   "1THIRD WHITE RIGHT POINTING INDEX,0MIDLINE HORIZONTAL ELLIPSIS,0MILITARY HELMET,1MEDAL",
   "0MILKY WAY,0MILL SIGN,0MINIBUS,0MINIDISC,0MINIMIZE,0MINUS SIGN,2IN TRIANGLE,2WITH COMMA ABOVE",
   "3DOT BELOW,3FALLING DOTS,3RISING DOTS,1TILDE,0MINUS-OR-PLUS SIGN,0MINY,0MIRROR,1BALL,0MMSP",
   "0MOBILE PHONE,2OFF,2WITH RIGHTWARDS ARROW AT LEFT,0MODELS,0MODERN PENTATHLON",
   "0MODI ABBREVIATION SIGN,1DANDA,1DIGIT EIGHT,2FIVE,2FOUR,2NINE,2ONE,2SEVEN,2SIX,2THREE,2TWO",
   "2ZERO,1DOUBLE DANDA,1LETTER A,2AA,2AI,2AU,2BA,2BHA,2CA,2CHA,2DA,2DDA,2DDHA,2DHA,2E,2GA,2GHA",
   "2HA,2I,2II,2JA,2JHA,2KA,2KHA,2LA,2LLA,2MA,2NA,2NGA,2NNA,2NYA,2O,2PA,2PHA,2RA,2SA,2SHA,2SSA,2TA",
   "2THA,2TTA,2TTHA,2U,2UU,2VA,2VOCALIC L,3LL,3R,3RR,2YA,1SIGN ANUSVARA,2ARDHACANDRA,2HUVA,2VIRAMA",
   "2VISARGA,1VOWEL SIGN AA,3AI,3AU,3E,3I,3II,3O,3U,3UU,3VOCALIC L,4LL,4R,4RR",
   "0MODIFIER BREVE WITH INVERTED BREVE,1LETTER ACUTE ACCENT,2ALVEOLAR CLICK,2APOSTROPHE",
   "2BEGIN HIGH TONE,3LOW TONE,2BILABIAL CLICK,2CAPITAL A,3AE,3B,3BARRED B,3C,3D,3E,3F,3G,3H",
   "4WITH STROKE,3I,3J,3K,3L,3M,3N,3O,3OU,3P,3Q,3R,3REVERSED E,4N,3T,3U,3V,3W",
   "2CENTRED LEFT HALF RING,3RIGHT HALF RING,2CHINESE TONE YANG PING,5QU,5RU,5SHANG,4YIN PING,5QU",
   "5RU,5SHANG,2CIRCUMFLEX ACCENT,2COLON,2CROSS ACCENT,2CYRILLIC EN,3HARD SIGN,3SOFT SIGN",
   "2DENTAL CLICK,2DOT HORIZONTAL BAR,3SLASH,3VERTICAL BAR,2DOUBLE APOSTROPHE,3PRIME",
   "2DOWN ARROWHEAD,3TACK,2END HIGH TONE,3LOW TONE,2EXTRA-HIGH DOTTED LEFT-STEM TONE BAR,4TONE BAR",
   "3LEFT-STEM TONE BAR,3TONE BAR,2EXTRA-LOW DOTTED LEFT-STEM TONE BAR,4TONE BAR",
   "3LEFT-STEM TONE BAR,3TONE BAR,2GEORGIAN NAR,2GLOTTAL STOP,4WITH STROKE,2GRAVE ACCENT",
   "2HALF TRIANGULAR COLON,2HIGH DOTTED LEFT-STEM TONE BAR,4TONE BAR,3LEFT-STEM TONE BAR,3TONE BAR",
   "2LATERAL CLICK,2LEFT ARROWHEAD,3HALF RING,3TACK,2LOW ACUTE ACCENT,3CIRCUMFLEX ACCENT",
   "3DOTTED LEFT-STEM TONE BAR,4TONE BAR,3DOWN ARROWHEAD,3GRAVE ACCENT,3INVERTED EXCLAMATION MARK",
   "3LEFT ARROW,4ARROWHEAD,3LEFT-STEM TONE BAR,3MACRON,3RIGHT ARROWHEAD,3RING,3TILDE,3TONE BAR",
   "3UP ARROWHEAD,3VERTICAL LINE,2LOWER RIGHT CORNER ANGLE,2MACRON,2MID DOTTED LEFT-STEM TONE BAR",
   "4TONE BAR,3LEFT-STEM TONE BAR,3TONE BAR,2MIDDLE DOUBLE ACUTE ACCENT,4GRAVE ACCENT",
   "3GRAVE ACCENT,2MINUS SIGN,2OPEN SHELF,2PLUS SIGN,2PRIME,2RAISED COLON,3DOWN ARROW",
   "3EXCLAMATION MARK,3INVERTED EXCLAMATION MARK,3UP ARROW,2RETROFLEX CLICK WITH RETROFLEX HOOK",
   "2REVERSED COMMA,3GLOTTAL STOP,5WITH STROKE,2RHOTIC HOOK,2RIGHT ARROWHEAD,3HALF RING,3TACK",
   "2SHELF,2SHORT EQUALS SIGN,2SMALL A,3AE,3AIN,3ALPHA,3B,4WITH HOOK,3BARRED O,3BETA",
   "3BOTTOM HALF O,3C,4WITH CURL,3CAPITAL AA,4B,4G,5WITH HOOK,4H,4I,5WITH STROKE,4INVERTED R,4L",
   "5WITH BELT,4N,4OE,4R,4U,4Y,3CHI,3CLOSED OMEGA,4REVERSED OPEN E,3D,4WITH HOOK,6AND TAIL,5TAIL",
   "3DELTA,3DEZH DIGRAPH,3DOTLESS J WITH STROKE,7AND HOOK,3DZ DIGRAPH,5WITH CURL,6RETROFLEX HOOK",
   "3E,3ENG,3ESH,3ETH,3EZH,3F,3FENG DIGRAPH,3G,4WITH HOOK,3GAMMA,3GREEK GAMMA,4PHI,3H,4WITH HOOK",
   "5STROKE,3HENG,4WITH HOOK,3I WITH STROKE,3IOTA,3J,4WITH CROSSED-TAIL,3K,3L,4WITH BELT",
   "5INVERTED LAZY S,5MIDDLE TILDE,5PALATAL HOOK,5RETROFLEX HOOK,7AND BELT,3LEZH",
   "4WITH RETROFLEX HOOK,3LIGATURE OE,3LS DIGRAPH,3LZ DIGRAPH,3M,4WITH HOOK,3N WITH LEFT HOOK",
   "5RETROFLEX HOOK,3O,4WITH STROKE,3OPEN E,4O,3P,3PHI,3Q,3R,4WITH FISHHOOK,5TAIL,3RAMS HORN",
   "3REVERSED E,4GLOTTAL STOP,4OPEN E,3S,4WITH CURL,5HOOK,3SCHWA,3SCRIPT G,3SIDEWAYS U,3T",
   "4WITH PALATAL HOOK,5RETROFLEX HOOK,3TC DIGRAPH WITH CURL,3TESH DIGRAPH,3THETA,3TOP HALF O",
   "3TS DIGRAPH,5WITH RETROFLEX HOOK,3TURNED A,4AE,4ALPHA,4H,4I,4M,5WITH LONG LEG,4OPEN E,4R",
   "5WITH HOOK,6LONG LEG,8AND RETROFLEX HOOK,4V,4W,4Y,5WITH BELT,3U,4BAR,4WITH LEFT HOOK,3UPSILON",
   "3V,4WITH HOOK,5RIGHT HOOK,3W,3X,3Y,3Z,4WITH CURL,5RETROFLEX HOOK,2STRESS AND HIGH TONE",
   "4LOW TONE,2SUPERSCRIPT HALF TRIANGULAR COLON,3TRIANGULAR COLON,2TRIANGULAR COLON,2TURNED COMMA",
   "2UNASPIRATED,2UP ARROWHEAD,3TACK,2US,2VERTICAL LINE,2VOICING,2YANG DEPARTING TONE MARK",
   "2YIN DEPARTING TONE MARK,0MODULO TWO SUM,0MONEY BAG,1WITH WINGS,0MONEY-MOUTH FACE",
   "0MONGOLIAN BIRGA,2WITH DOUBLE ORNAMENT,3ORNAMENT,1COLON,1COMMA,1DIGIT EIGHT,2FIVE,2FOUR,2NINE",
   "2ONE,2SEVEN,2SIX,2THREE,2TWO,2ZERO,1DOUBLE BIRGA WITH ORNAMENT,1ELLIPSIS,1FOUR DOTS",
   "1FREE VARIATION SELECTOR FOUR,4ONE,4THREE,4TWO,1FULL STOP,1INVERTED BIRGA",
   "3WITH DOUBLE ORNAMENT,1LETTER A,2ALI GALI A,4AH,4ANUSVARA ONE,4BALUDA,4CA,4DA,4DAGALGA,4DAMARU",
   "4DDA,4HALF U,5YA,4I,4INVERTED UBADAMA,4KA,4NGA,4NNA,4PA,4PHA,4SSA,4TA,4THREE BALUDA,4TTA,4TTHA",
   "4UBADAMA,4VISARGA ONE,4ZA,4ZHA,2ANG,2BA,2CHA,3WITH TWO DOTS,2CHI,2DA,2E,2EE,2FA,2GA,2HAA,2I",
   "2JA,2KA,2KHA,2LA,2LHA,2MA,2MANCHU ALI GALI BHA,5CA,5CYA,5DDHA,5DHA,5GHA,5JHA,5LHA,5NGA,5SSA",
   "5TA,5TTA,5ZA,5ZHA,3FA,3I,3KA,3RA,3ZHA,2NA,2O,2OE,2PA,2QA,2RA,2SA,2SHA,2SIBE ANG,3CHA,3DA,3E",
   "3FA,3GA,3GAA,3HA,3HAA,3I,3IY,3JA,3KA,3PA,3RAA,3SHA,3TA,3TSA,3U,3UE,3ZA,3ZHA,2TA",
   "2TODO ALI GALI TA,5ZHA,3ANG,3BA,3CHA,3DA,3DZA,3E,3GA,3GAA,3HAA,3I,3JA,3JIA,3KA",
   "3LONG VOWEL SIGN,3MA,3NIA,3O,3OE,3PA,3QA,3TA,3TSA,3U,3UE,3WA,3YA,2TSA,2U,2UE,2WA,2YA,2ZA,2ZHI",
   "2ZRA,1MANCHU COMMA,2FULL STOP,1NIRUGU,1ROTATED BIRGA,3WITH DOUBLE ORNAMENT,4ORNAMENT",
   "1SIBE SYLLABLE BOUNDARY MARKER,1SWIRL BIRGA,3WITH DOUBLE ORNAMENT,4ORNAMENT,1TODO SOFT HYPHEN",
   "1TRIPLE BIRGA WITH ORNAMENT,1TURNED SWIRL BIRGA WITH DOUBLE ORNAMENT,1VOWEL SEPARATOR,0MONKEY",
   "1FACE,0MONOGRAM FOR EARTH,2YANG,2YIN,0MONORAIL,0MONOSTABLE SYMBOL,0MOOD BUBBLE,0MOON CAKE",
   "1VIEWING CEREMONY,0MOSQUE,0MOSQUITO,0MOTHER CHRISTMAS,0MOTOR BOAT,1SCOOTER",
   "0MOTORIZED WHEELCHAIR,0MOTORWAY,0MOUNT FUJI,0MOUNTAIN,1BICYCLIST,1CABLEWAY,1RAILWAY,0MOUSE",
   "1FACE,1TRAP,0MOUTH,0MOVIE CAMERA,0MOYAI,0MRO DANDA,1DIGIT EIGHT,2FIVE,2FOUR,2NINE,2ONE,2SEVEN",
   "2SIX,2THREE,2TWO,2ZERO,1DOUBLE DANDA,1LETTER A,2BA,2CHU,2DA,2DAI,2E,2EA,2HAI,2HAO,2KEAAE,2KHAI",
   "2KO,2LA,2LAN,2MAEM,2MIM,2NGI,2NIN,2O,2OL,2OO,2PA,2PHI,2RI,2RO,2SHI,2TA,2TEK,2THEA,2WA,2YO",
   "0MUCH GREATER-THAN,1LESS-THAN,0MULTANI LETTER A,2BA,2BHA,2CA,2CHA,2DA,2DDA,2DDDA,2DDHA,2DHA,2E",
   "2GA,2GHA,2HA,2I,2JA,2JJA,2KA,2KHA,2LA,2MA,2NA,2NNA,2NYA,2PA,2PHA,2RA,2RHA,2RRA,2SA,2TA,2THA",
   "2TTA,2TTHA,2U,2VA,2YA,1SECTION MARK,0MULTIMAP,0MULTIPLE MUSICAL NOTES,0MULTIPLICATION SIGN",
   "2IN DOUBLE CIRCLE,3LEFT HALF CIRCLE,3RIGHT HALF CIRCLE,3TRIANGLE,2WITH DOT ABOVE,3UNDERBAR,1X",
   "0MULTISET,1MULTIPLICATION,1UNION,0MUSHROOM,0MUSIC FLAT SIGN,1NATURAL SIGN,1SHARP SIGN",
   "0MUSICAL KEYBOARD,2WITH JACKS,1NOTE,1SCORE,1SYMBOL ARPEGGIATO DOWN,3UP,2BEGIN BEAM,3PHRASE",
   "3SLUR,3TIE,2BRACE,2BRACKET,2BREATH MARK,2BREVE,2BREVIS,3REST,2C CLEF,2CAESURA",
   "2CIRCLE X NOTEHEAD,2CLIMACUS,2CLIVIS,2CLUSTER NOTEHEAD BLACK,4WHITE,2CODA,2COMBINING ACCENT",
   "3ACCENT-STACCATO,3AUGMENTATION DOT,3BEND,3DOIT,3DOUBLE TONGUE,3DOWN BOW,3FLAG-1,3FLAG-2",
   "3FLAG-3,3FLAG-4,3FLAG-5,3FLIP,3HARMONIC,3LOURE,3MARCATO,3MARCATO-STACCATO,3RIP,3SMEAR",
   "3SNAP PIZZICATO,3SPRECHGESANG STEM,3STACCATISSIMO,3STACCATO,3STEM,3TENUTO,3TREMOLO-1",
   "3TREMOLO-2,3TREMOLO-3,3TRIPLE TONGUE,3UP BOW,2COMMON TIME,2CRESCENDO,2CROIX,2CUT TIME,2DA CAPO",
   "2DAL SEGNO,2DAMP,3ALL,2DASHED BARLINE,2DECRESCENDO,2DEGREE SLASH,2DOUBLE BARLINE,3FLAT,3SHARP",
   "2DRUM CLEF-1,3CLEF-2,2EIGHTH NOTE,3REST,2END BEAM,3OF STIMME,3PHRASE,3SLUR,3TIE,2F CLEF",
   "4OTTAVA ALTA,5BASSA,2FERMATA,3BELOW,2FINAL BARLINE,2FINGERED TREMOLO-1,3TREMOLO-2,3TREMOLO-3",
   "2FIVE-LINE STAFF,2FLAT DOWN,3UP,2FORTE,2FOUR-LINE STAFF,2FOUR-STRING FRETBOARD,2FUSA BLACK",
   "3WHITE,2G CLEF,4OTTAVA ALTA,5BASSA,2GLISSANDO DOWN,3UP,2GRACE NOTE NO SLASH,4SLASH",
   "2GREGORIAN C CLEF,3F CLEF,2HALF NOTE,3PEDAL MARK,3REST,2HAUPTSTIMME,2INVERTED TURN",
   "2KIEVAN C CLEF,3EIGHTH NOTE STEM DOWN,6UP,3END OF PIECE,3FINAL NOTE,3FLAT SIGN,3HALF NOTE",
   "3QUARTER NOTE STEM DOWN,6UP,3RECITATIVE MARK,3WHOLE NOTE,2KORON,2LEFT REPEAT SIGN,2LONGA",
   "3IMPERFECTA REST,3PERFECTA REST,2MAXIMA,2MEZZO,2MINIMA,3BLACK,3REST,2MOON NOTEHEAD BLACK",
   "4WHITE,2MULTI REST,2MULTIPLE MEASURE REST,2NATURAL DOWN,3UP,2NEBENSTIMME,2NOTEHEAD BLACK",
   "2NULL NOTEHEAD,2ONE HUNDRED TWENTY-EIGHTH NOTE,5REST,2ONE-LINE STAFF,2ORNAMENT STROKE-1",
   "3STROKE-10,3STROKE-11,3STROKE-2,3STROKE-3,3STROKE-4,3STROKE-5,3STROKE-6,3STROKE-7,3STROKE-8",
   "3STROKE-9,2OTTAVA ALTA,3BASSA,2PARENTHESIS NOTEHEAD,2PEDAL MARK,3UP MARK,2PES SUBPUNCTIS",
   "2PIANO,2PLUS NOTEHEAD,2PODATUS,2PORRECTUS,3FLEXUS,2QUARTER NOTE,3REST,3TONE FLAT,4SHARP",
   "2QUINDICESIMA ALTA,3BASSA,2REPEAT DOTS,2REPEATED FIGURE-1,3FIGURE-2,3FIGURE-3",
   "2REVERSE FINAL BARLINE,2RIGHT REPEAT SIGN,2RINFORZANDO,2SCANDICUS,3FLEXUS,2SEGNO",
   "2SEMIBREVIS BLACK,3REST,3WHITE,2SEMIMINIMA BLACK,3REST,3WHITE,2SHARP DOWN,3UP,2SHORT BARLINE",
   "2SINGLE BARLINE,2SIX-LINE STAFF,2SIX-STRING FRETBOARD,2SIXTEENTH NOTE,3REST,2SIXTY-FOURTH NOTE",
   "3REST,2SORI,2SQUARE B,3NOTEHEAD BLACK,4WHITE,2SUBITO",
   "2TEMPUS IMPERFECTUM CUM PROLATIONE IMPERFECTA,7DIMINUTION-1,7DIMINUTION-2,7DIMINUTION-3",
   "6PERFECTA,3PERFECTUM CUM PROLATIONE IMPERFECTA,6PERFECTA,7DIMINUTION-1,2THIRTY-SECOND NOTE",
   "3REST,2THREE-LINE STAFF,2TORCULUS,3RESUPINUS,2TR,2TRIANGLE NOTEHEAD DOWN BLACK,5WHITE",
   "4LEFT BLACK,5WHITE,4RIGHT BLACK,5WHITE,4UP BLACK,5RIGHT BLACK,6WHITE,5WHITE",
   "2TRIANGLE-ROUND NOTEHEAD DOWN BLACK,5WHITE,2TURN,3SLASH,3UP,2TWO-LINE STAFF,2VIRGA",
   "2VOID NOTEHEAD,2WHOLE NOTE,3REST,2WITH FINGERNAILS,2X NOTEHEAD,2Z,0MVS,0MW",
   "0MYANMAR CONSONANT SIGN MEDIAL HA,4RA,4WA,4YA,3MON MEDIAL LA,5MA,5NA,3SHAN MEDIAL WA",
   "1DIGIT EIGHT,2FIVE,2FOUR,2NINE,2ONE,2SEVEN,2SIX,2THREE,2TWO,2ZERO,1LETTER A,2AITON RA,2AU,2BA",
   "2BHA,2CA,2CHA,2DA,2DDA,2DDHA,2DHA,2E,2EASTERN PWO KAREN GHWA,5NNA,5YWA,2GA,2GHA,2GREAT SA,2HA",
   "2I,2II,2JA,2JHA,2KA,2KHA,2KHAMTI CA,3CHA,3DDA,3DDHA,3DHA,3FA,3GA,3HA,3HHA,3JA,3JHA,3LLA,3NA",
   "3NYA,3RA,3SA,3TTA,3TTHA,3XA,3ZA,2LA,2LLA,2MA,2MON BBA,3BBE,3E,3JHA,3NGA,2NA,2NGA,2NNA,2NNYA",
   "2NYA,2O,2PA,2PHA,2RA,2RUMAI PALAUNG FA,2SA,2SGAW KAREN SHA,2SHA,2SHAN A,3BA,3BHA,3CA,3CHA,3DA",
   "3FA,3GA,3GHA,3HA,3JHA,3KA,3KHA,3NA,3NNA,3NYA,3PHA,3THA,3ZA,2SHWE PALAUNG CHA,4SHA,2SSA,2TA",
   "2TAI LAING BA,4BHA,4DA,4DDA,4DDHA,4DHA,4FA,4GA,4GHA,4JA,4JHA,4LLA,4NNA,4NYA,2THA,2TTA,2TTHA,2U",
   "2UU,2VOCALIC L,3LL,3R,3RR,2WA,2WESTERN PWO KAREN PWA,5THA,2YA,1LOGOGRAM KHAMTI HM,3OAY,3QN",
   "1MODIFIER LETTER KHAMTI REDUPLICATION,3SHAN REDUPLICATION,1SHAN DIGIT EIGHT,3FIVE,3FOUR,3NINE",
   "3ONE,3SEVEN,3SIX,3THREE,3TWO,3ZERO,1SIGN ANUSVARA,2ASAT,2DOT BELOW,2KHAMTI TONE-1,3TONE-3",
   "2LITTLE SECTION,2PAO KAREN TONE,2RUMAI PALAUNG TONE-5,2SECTION,2SHAN COUNCIL EMPHATIC TONE",
   "4TONE-2,4TONE-3,3SAW,3TONE-2,3TONE-3,3TONE-5,3TONE-6,2TAI LAING TONE-2,4TONE-5,2VIRAMA",
   "2VISARGA,2WESTERN PWO KAREN TONE-1,5TONE-2,5TONE-3,5TONE-4,5TONE-5,1SYMBOL AFOREMENTIONED",
   "2AITON EXCLAMATION,3ONE,3TWO,2COMPLETED,2GENITIVE,2LOCATIVE,2SHAN EXCLAMATION,3ONE",
   "1TAI LAING DIGIT EIGHT,4FIVE,4FOUR,4NINE,4ONE,4SEVEN,4SIX,4THREE,4TWO,4ZERO",
   "1TONE MARK SGAW KAREN HATHI,5KE PHO,1VOWEL SIGN AA,3AI,3AITON A,4AI,3E,4ABOVE,3GEBA KAREN I,3I",
   "3II,3KAYAH EE,4OE,4U,3MON II,4O,3SGAW KAREN EU,3SHAN AA,4E,5ABOVE,4FINAL Y,3TALL AA,3U,3UU",
   "3VOCALIC L,4LL,4R,4RR,3WESTERN PWO KAREN EU,6UE,0N-ARY CIRCLED DOT OPERATOR,2PLUS OPERATOR",
   "2TIMES OPERATOR,1COPRODUCT,1INTERSECTION,1LOGICAL AND,2OR,1PRODUCT",
   "1SQUARE INTERSECTION OPERATOR,2UNION OPERATOR,1SUMMATION,1TIMES OPERATOR,1UNION",
   "2OPERATOR WITH DOT,4PLUS,1WHITE VERTICAL BAR,0NABATAEAN CRUCIFORM NUMBER FOUR,1LETTER ALEPH",
   "2AYIN,2BETH,2DALETH,2FINAL ALEPH,3BETH,3HE,3KAPH,3LAMEDH,3MEM,3NUN,3SHIN,3YODH,2GIMEL,2HE",
   "2HETH,2KAPH,2LAMEDH,2MEM,2NUN,2PE,2QOPH,2RESH,2SADHE,2SAMEKH,2SHIN,2TAW,2TETH,2WAW,2YODH",
   "2ZAYIN,1NUMBER FIVE,2FOUR,2ONE,3HUNDRED,2TEN,2THREE,2TWENTY,2TWO,0NABLA,0NAIL POLISH",
   "0NAIRA SIGN,0NAK,0NAME BADGE,0NAND,0NANDINAGARI HEADSTROKE,1LETTER A,2AA,2AI,2AU,2BA,2BHA,2CA",
   "2CHA,2DA,2DDA,2DDHA,2DHA,2E,2GA,2GHA,2HA,2I,2II,2JA,2JHA,2KA,2KHA,2LA,2LLA,2MA,2NA,2NGA,2NNA",
   "2NYA,2O,2PA,2PHA,2RA,2RRA,2SA,2SHA,2SSA,2TA,2THA,2TTA,2TTHA,2U,2UU,2VA,2VOCALIC R,3RR,2YA",
   "1SIGN ANUSVARA,2AVAGRAHA,2SIDDHAM,2VIRAMA,2VISARGA,1VOWEL SIGN AA,3AI,3AU,3E,3I,3II,3O",
   "3PRISHTHAMATRA E,3U,3UU,3VOCALIC R,4RR,0NARROW NO-BREAK SPACE,0NATIONAL DIGIT SHAPES,1PARK",
   "0NAUSEATED FACE,0NAZAR AMULET,0NBH,0NBSP,0NECKTIE",
   "0NEGATED DOUBLE VERTICAL BAR DOUBLE RIGHT TURNSTILE,0NEGATIVE ACKNOWLEDGE,1CIRCLED DIGIT ZERO",
   "2LATIN CAPITAL LETTER A,5B,5C,5D,5E,5F,5G,5H,5I,5J,5K,5L,5M,5N,5O,5P,5Q,5R,5S,5T,5U,5V,5W,5X",
   "5Y,5Z,2NUMBER EIGHTEEN,3ELEVEN,3FIFTEEN,3FOURTEEN,3NINETEEN,3SEVENTEEN,3SIXTEEN,3THIRTEEN",
   "3TWELVE,3TWENTY,2SQUARE,2TRIANGLE,1DIAGONAL CROSS,2DIAMOND,2MIDDLE RIGHT TO LOWER CENTRE",
   "1SQUARED AB,2CROSS MARK,2IC,2LATIN CAPITAL LETTER A,5B,5C,5D,5E,5F,5G,5H,5I,5J,5K,5L,5M,5N,5O",
   "5P,5Q,5R,5S,5T,5U,5V,5W,5X,5Y,5Z,2PA,2QUESTION MARK,2SA,2WC,0NEITHER A SUBSET OF NOR EQUAL TO",
   "2SUPERSET OF NOR EQUAL TO,1APPROXIMATELY NOR ACTUALLY EQUAL TO,1GREATER-THAN NOR EQUAL TO",
   "3EQUIVALENT TO,3LESS-THAN,1LESS-THAN NOR EQUAL TO,3EQUIVALENT TO,3GREATER-THAN,0NEL,0NEPTUNE",
   "1FORM TWO,0NERD FACE,0NESSUS,0NEST WITH EGGS,0NESTING DOLLS,0NEUTER,0NEUTRAL CHESS BISHOP",
   "3ROTATED NINETY DEGREES,4TWO HUNDRED SEVENTY DEGREES,2EQUIHOPPER,3ROTATED NINETY DEGREES,2KING",
   "3ROTATED NINETY DEGREES,4TWO HUNDRED SEVENTY DEGREES,2KNIGHT,3ROTATED FORTY-FIVE DEGREES",
   "4NINETY DEGREES,4ONE HUNDRED THIRTY-FIVE DEGREES,4THREE HUNDRED FIFTEEN DEGREES",
   "4TWO HUNDRED SEVENTY DEGREES,6TWENTY-FIVE DEGREES,2PAWN,3ROTATED NINETY DEGREES",
   "4TWO HUNDRED SEVENTY DEGREES,2QUEEN,3ROTATED NINETY DEGREES,4TWO HUNDRED SEVENTY DEGREES,2ROOK",
   "3ROTATED NINETY DEGREES,4TWO HUNDRED SEVENTY DEGREES,2TURNED BISHOP,3KING,3KNIGHT,3PAWN,3QUEEN",
   "3ROOK,1FACE,0NEW LINE,1MOON SYMBOL,2WITH FACE,1SHEQEL SIGN,1TAI LUE DIGIT EIGHT,4FIVE,4FOUR",
   "4NINE,4ONE,4SEVEN,4SIX,4THREE,4TWO,4ZERO,3LETTER FINAL B,5D,5K,5M,5N,5NG,5V,4HIGH BA,5DA,5FA",
   "5HA,5KA,5KVA,5LA,5MA,5NA,5NGA,5PA,5PHA,5QA,5SA,5SUA,5TA,5THA,5TSA,5VA,5XA,5XVA,5YA,4LOW BA,5DA",
   "5FA,5HA,5KA,5KVA,5LA,5MA,5NA,5NGA,5PA,5PHA,5QA,5SA,5SUA,5TA,5THA,5TSA,5VA,5XA,5XVA,5YA",
   "3SIGN LAE,4LAEV,3THAM DIGIT ONE,3TONE MARK-1,4MARK-2,3VOWEL SIGN AA,5AAY,5AE,5AY,5E,5II,5IY,5O",
   "5OA,5OAY,5OY,5U,5UE,5UEY,5UU,5UY,5VOWEL SHORTENER,0NEWA ABBREVIATION SIGN,1COMMA,1DANDA",
   "1DIGIT EIGHT,2FIVE,2FOUR,2NINE,2ONE,2SEVEN,2SIX,2THREE,2TWO,2ZERO,1DOUBLE COMMA,2DANDA",
   "1GAP FILLER,1INSERTION SIGN,1LETTER A,2AA,2AI,2AU,2BA,2BHA,2CA,2CHA,2DA,2DDA,2DDHA,2DHA,2E,2GA",
   "2GHA,2HA,2I,2II,2JA,2JHA,2KA,2KHA,2LA,2LHA,2MA,2MHA,2NA,2NGA,2NGHA,2NHA,2NNA,2NYA,2NYHA,2O,2PA",
   "2PHA,2RA,2RHA,2SA,2SHA,2SSA,2TA,2THA,2TTA,2TTHA,2U,2UU,2VEDIC ANUSVARA,2VOCALIC L,3LL,3R,3RR",
   "2WA,2YA,1OM,1PLACEHOLDER MARK,1SANDHI MARK,1SIDDHI,1SIGN ANUSVARA,2AVAGRAHA,2CANDRABINDU",
   "2FINAL ANUSVARA,2JIHVAMULIYA,2NUKTA,2UPADHMANIYA,2VIRAMA,2VISARGA,1VOWEL SIGN AA,3AI,3AU,3E,3I",
   "3II,3O,3U,3UU,3VOCALIC L,4LL,4R,4RR,0NEWLINE LEFT,1RIGHT,0NEWSPAPER,0NEXT LINE,1PAGE",
   "0NIGHT WITH STARS,0NINJA,0NKO COMBINING DOUBLE DOT ABOVE,2LONG DESCENDING TONE,3HIGH TONE",
   "3LOW TONE,3RISING TONE,2NASALIZATION MARK,2SHORT HIGH TONE,3LOW TONE,3RISING TONE,1COMMA",
   "1DANTAYALAN,1DIGIT EIGHT,2FIVE,2FOUR,2NINE,2ONE,2SEVEN,2SIX,2THREE,2TWO,2ZERO,1DOROME SIGN",
   "1EXCLAMATION MARK,1HIGH TONE APOSTROPHE,1LAJANYALAN,1LETTER A,2BA,2CHA,2DA,2DAGBASINNA,2E,2EE",
   "2FA,2GBA,2HA,2I,2JA,2JONA CHA,3JA,3RA,2KA,2LA,2MA,2N,2NA,3WOLOSO,2NYA,3WOLOSO,2O,2OO,2PA,2RA",
   "2RRA,2SA,2TA,2U,2WA,2YA,1LOW TONE APOSTROPHE,1SYMBOL GBAKURUNEN,2OO DENNEN,1TAMAN SIGN,0NL",
   "0NNBSP,0NO BICYCLES,1BREAK HERE,1ENTRY,2SIGN,1MOBILE PHONES,1ONE UNDER EIGHTEEN SYMBOL",
   "1PEDESTRIANS,1PIRACY,1SMOKING SYMBOL,0NO-BREAK SPACE,0NOMINAL DIGIT SHAPES,0NOMISMA SIGN",
   "0NON-BREAKING HYPHEN,0NON-POTABLE WATER SYMBOL,0NONFORKING,0NOR,0NORDIC MARK SIGN",
   "0NORMAL SUBGROUP OF,3OR EQUAL TO,0NORTH EAST AND SOUTH WEST ARROW,2ARROW,3AND SOUTH EAST ARROW",
   "3CROSSING NORTH WEST ARROW,4SOUTH EAST ARROW,3WITH HOOK,2BLACK ARROW,2DOUBLE ARROW",
   "2POINTING BUD,3LEAF,3VINE LEAF,2SANS-SERIF ARROW,2TRIANGLE-HEADED ARROW,4TO BAR,2WHITE ARROW",
   "1INDIC FRACTION ONE EIGHTH,4HALF,4QUARTER,4SIXTEENTH,3THREE QUARTERS,4SIXTEENTHS",
   "2PLACEHOLDER MARK,2QUANTITY MARK,2QUARTER MARK,2RUPEE MARK,1WEST AND SOUTH EAST ARROW,2ARROW",
   "3AND NORTH EAST ARROW,3CROSSING NORTH EAST ARROW,3TO CORNER,4LONG BAR,3WITH HOOK,2BLACK ARROW",
   "2DOUBLE ARROW,2POINTING BUD,3LEAF,3VINE LEAF,2SANS-SERIF ARROW,2TRIANGLE-HEADED ARROW,4TO BAR",
   "2WHITE ARROW,0NORTHEAST-POINTING AIRPLANE,0NOSE,0NOT A SUBSET OF,2SUPERSET OF,1ALMOST EQUAL TO",
   "1AN ELEMENT OF,1ASYMPTOTICALLY EQUAL TO,1CHECK MARK,1EQUAL TO,1EQUIVALENT TO,1GREATER-THAN",
   "1IDENTICAL TO,1LESS-THAN,1NORMAL SUBGROUP OF,4OR EQUAL TO,1PARALLEL TO,1SIGN",
   "1SQUARE IMAGE OF OR EQUAL TO,2ORIGINAL OF OR EQUAL TO,1TILDE,1TRUE",
   "0NOTCHED LEFT SEMICIRCLE WITH THREE DOTS,1LOWER RIGHT-SHADOWED WHITE RIGHTWARDS ARROW",
   "1RIGHT SEMICIRCLE WITH THREE DOTS,1UPPER RIGHT-SHADOWED WHITE RIGHTWARDS ARROW,0NOTE,1PAD",
   "1PAGE,0NOTEBOOK,1WITH DECORATIVE COVER,0NUL,0NULL,0NUMBER EIGHTEEN FULL STOP,1ELEVEN FULL STOP",
   "1FIFTEEN FULL STOP,1FOURTEEN FULL STOP,1NINETEEN FULL STOP,1SEVENTEEN FULL STOP,1SIGN",
   "1SIXTEEN FULL STOP,1TEN FULL STOP,1THIRTEEN FULL STOP,1TWELVE FULL STOP,1TWENTY FULL STOP",
   "0NUMERO SIGN,0NUSHU ITERATION MARK,0NUT AND BOLT,0NYIAKENG PUACHUE HMONG CIRCLED CA",
   "3DIGIT EIGHT,4FIVE,4FOUR,4NINE,4ONE,4SEVEN,4SIX,4THREE,4TWO,4ZERO,3LETTER A,4AA,4CA,4DA,4DLA",
   "4E,4EE,4FA,4GA,4HA,4HAH,4I,4KA,4LA,4MA,4MLA,4NA,4NCA,4NKA,4NPA,4NPLA,4NQA,4NRA,4NTA,4NTSA",
   "4NTXA,4NYA,4O,4OO,4PA,4PLA,4QA,4RA,4RRA,4SA,4TA,4TSA,4TXA,4U,4VA,4W,4XA,4XYA,4YA,4ZA",
   "3LOGOGRAM NYAJ,3SIGN FOR ANIMAL,5INVERTEBRATE,5LOCATION,5PERSON,5THING,4XW XW",
   "3SYLLABLE LENGTHENER,3TONE-B,3TONE-D,3TONE-G,3TONE-J,3TONE-M,3TONE-S,3TONE-V",
   "0OBJECT REPLACEMENT CHARACTER,0OBLIQUE ANGLE OPENING DOWN,3UP,1HYPHEN,0OBSERVER EYE SYMBOL",
   "0OCR AMOUNT OF CHECK,1BELT BUCKLE,1BOW TIE,1BRANCH BANK IDENTIFICATION,1CHAIR",
   "1CUSTOMER ACCOUNT NUMBER,1DASH,1DOUBLE BACKSLASH,1FORK,1HOOK,1INVERTED FORK,0OCTAGONAL SIGN",
   "0OCTOPUS,0ODEN,0OFFICE BUILDING,0OGHAM FEATHER MARK,1LETTER AILM,2BEITH,2CEIRT,2COLL,2DAIR",
   "2EABHADH,2EADHADH,2EAMHANCHOLL,2FEARN,2GORT,2IFIN,2IODHADH,2LUIS,2MUIN,2NGEADAL,2NION,2ONN,2OR",
   "2PEITH,2RUIS,2SAIL,2STRAIF,2TINNE,2UATH,2UILLEANN,2UR,1REVERSED FEATHER MARK,1SPACE MARK",
   "0OGONEK,0OHM SIGN,0OIL DRUM,0OK HAND SIGN,0OL CHIKI AHAD,2DIGIT EIGHT,3FIVE,3FOUR,3NINE,3ONE",
   "3SEVEN,3SIX,3THREE,3TWO,3ZERO,2GAAHLAA TTUDDAAG,2LETTER AAJ,3AAK,3AAM,3AAW,3AG,3AL,3ANG,3AT",
   "3EDD,3EN,3EP,3ERR,3IH,3INY,3IR,3IS,3LA,3LAA,3LE,3LI,3LO,3LU,3OB,3OH,3OTT,3OV,3UC,3UD,3UNN,3UY",
   "2MU TTUDDAG,2MU-GAAHLAA TTUDDAAG,2PHAARKAA,2PUNCTUATION DOUBLE MUCAAD,3MUCAAD,2RELAA",
   "0OLD CHINESE HOOK MARK,2ITERATION MARK,1HUNGARIAN CAPITAL LETTER A,4AA,4AK,4AMB,4AND,4CLOSE E",
   "4E,4EB,4EC,4ECH,4ECS,4ED,4EE,4EF,4EG,4EGY,4EH,4EJ,4EK,4EL,4ELY,4EM,4EMP,4EN,4ENC,4ENT",
   "4ENT-SHAPED SIGN,4ENY,4EP,4ER,4ES,4ESZ,4ET,4ETY,4EV,4EZ,4EZS,4I,4II,4NIKOLSBURG OE,5UE,4O,4OEE",
   "4OO,4RUDIMENTA OE,5UE,4SHORT ER,4U,4UNK,4US,4UU,2NUMBER FIFTY,3FIVE,3ONE,4HUNDRED,4THOUSAND",
   "3TEN,2SMALL LETTER A,4AA,4AK,4AMB,4AND,4CLOSE E,4E,4EB,4EC,4ECH,4ECS,4ED,4EE,4EF,4EG,4EGY,4EH",
   "4EJ,4EK,4EL,4ELY,4EM,4EMP,4EN,4ENC,4ENT,4ENT-SHAPED SIGN,4ENY,4EP,4ER,4ES,4ESZ,4ET,4ETY,4EV",
   "4EZ,4EZS,4I,4II,4NIKOLSBURG OE,5UE,4O,4OEE,4OO,4RUDIMENTA OE,5UE,4SHORT ER,4U,4UNK,4US,4UU",
   "1ITALIC LETTER A,3BE,3CHE,3DE,3E,3EF,3EKS,3EL,3EM,3EN,3ER,3ERS,3ES,3ESH,3ESS,3HE,3I,3II,3KA",
   "3KE,3KHE,3KU,3NORTHERN TSE,3O,3PE,3PHE,3SHE,3SOUTHERN TSE,3TE,3THE,3U,3UU,3VE,3YE,3ZE",
   "2NUMERAL FIFTY,3FIVE,3ONE,3TEN,1KEY,1NORTH ARABIAN LETTER AIN,4ALEF,4BEH,4DAD,4DAL,4ES-1,4ES-2",
   "4ES-3,4FEH,4GEEM,4GHAIN,4HAH,4HEH,4KAF,4KHAH,4LAM,4MEEM,4NOON,4QAF,4REH,4SAD,4TAH,4TEH,4THAL",
   "4THEH,4WAW,4YEH,4ZAH,4ZAIN,3NUMBER ONE,4TEN,4TWENTY,1PERMIC LETTER AN,3BUR,3CHERY,3DOI,3DZHOI",
   "3DZITA,3E,3EF,3GAI,3HA,3I,3IA,3IE,3KOKE,3LEI,3MENOE,3NENOE,3O,3OO,3PEEI,3REI,3SHCHOOI,3SHOOI",
   "3SII,3TAI,3TSIU,3U,3VER,3VOOI,3YA,3YAT,3YER,3YERI,3YERU,3YRY,3YU,3ZATA,3ZHOI",
   "1PERSIAN NUMBER HUNDRED,3ONE,3TEN,3TWENTY,3TWO,2SIGN A,3AURAMAZDAA,3AURAMAZDAA-2,3AURAMAZDAAHA",
   "3BA,3BAGA,3BUUMISH,3CA,3DA,3DAHYAAUSH,3DAHYAAUSH-2,3DI,3DU,3FA,3GA,3GU,3HA,3I,3JA,3JI,3KA,3KU",
   "3LA,3MA,3MI,3MU,3NA,3NU,3PA,3RA,3RU,3SA,3SHA,3SSA,3TA,3THA,3TU,3U,3VA,3VI,3XA,3XSHAAYATHIYA",
   "3YA,3ZA,2WORD DIVIDER,1PERSONAL COMPUTER,1SOGDIAN FRACTION ONE HALF,2LETTER ALEPH",
   "3ALTERNATE AYIN,3AYIN,3BETH,3FINAL ALEPH,4BETH,4HE,4NUN,5WITH VERTICAL TAIL,4SADHE",
   "5WITH VERTICAL TAIL,4TAW,5WITH VERTICAL TAIL,3GIMEL,3HE,3HETH,3KAPH,3LAMEDH,3MEM,3NUN,3PE",
   "3RESH-AYIN-DALETH,3SADHE,3SAMEKH,3SHIN,3TAW,3WAW,3YODH,3ZAYIN,2LIGATURE AYIN-DALETH",
   "2NUMBER FIVE,3FOUR,3ONE,4HUNDRED,3TEN,3THIRTY,3THREE,3TWENTY,3TWO,1SOUTH ARABIAN LETTER ALEF",
   "4AYN,4BETH,4DALETH,4DHADHE,4DHALETH,4FE,4GHAYN,4GIMEL,4HE,4HETH,4KAPH,4KHETH,4LAMEDH,4MEM,4NUN",
   "4QOPH,4RESH,4SADHE,4SAMEKH,4SAT,4SHIN,4TAW,4TETH,4THAW,4THETH,4WAW,4YODH,4ZAYN,3NUMBER FIFTY",
   "4ONE,3NUMERIC INDICATOR,1TURKIC LETTER ORKHON A,4AB,4AD,4AEB,4AED,4AEG,4AEK,4AEL,4AEN,4AER",
   "4AES,4AET,4AEY,4AG,4AL,4AN,4AQ,4AR,4AS,4ASH,4AT,4AY,4BASH,4EC,4ELT,4EM,4ENC,4ENG,4ENT,4ENY,4EP",
   "4ESH,4EZ,4I,4IC,4IQ,4O,4OE,4OEK,4OP,4OQ,4OT,3YENISEI A,4AB,4AD,4AE,4AEB,4AEG,4AEK,4AEN,4AENG",
   "4AET,4AEY,4AG,4AL,4ANG,4AQ,4AR,4ASH,4AT,4AY,4E,4EC,4ENC,4ENT,4ENY,4ESH,4EZ,4I,4IQ,4OE,4OEK,4OQ",
   "1UYGHUR COMBINING DOT ABOVE,4BELOW,3TWO DOTS ABOVE,5BELOW,2LETTER ALEPH,3BETH,3FINAL HETH",
   "3GIMEL-HETH,3KAPH,3LAMEDH,3LESH,3MEM,3NUN,3PE,3RESH,3SADHE,3SAMEKH,3SHIN,3TAW,3WAW,3YODH",
   "3ZAYIN,2PUNCTUATION BAR,3FOUR DOTS,3TWO BARS,4DOTS,0OLDER ADULT,1MAN,1WOMAN,0OLIVE,0OM SYMBOL",
   "0ON WITH EXCLAMATION MARK WITH LEFT RIGHT ARROW ABOVE,0ONCOMING AUTOMOBILE,1BUS,1FIRE ENGINE",
   "1POLICE CAR,1TAXI,0ONE BUTTON MOUSE,1DOT LEADER,2OVER TWO DOTS PUNCTUATION,0ONE-PIECE SWIMSUIT",
   "0ONION,0OPEN BOOK,1BOX,1CENTRE ASTERISK,2BLACK STAR,2CROSS,2TEARDROP-SPOKED ASTERISK",
   "1FILE FOLDER,1FOLDER,1HANDS SIGN,1LOCK,1MAILBOX WITH LOWERED FLAG,3RAISED FLAG,1SUBSET",
   "1SUPERSET,0OPEN-CIRCUIT-OUTPUT H-TYPE SYMBOL,1L-TYPE SYMBOL,0OPEN-OUTLINED RIGHTWARDS ARROW",
   "0OPERATING SYSTEM COMMAND,0OPHIUCHUS,0OPPOSITION,0OPTICAL DISC,2ICON,0OPTION KEY",
   "0OR WITH DOT INSIDE,0ORANGE BOOK,1HEART,0ORANGUTAN,0ORIGINAL OF,0ORIYA AI LENGTH MARK",
   "1AU LENGTH MARK,1DIGIT EIGHT,2FIVE,2FOUR,2NINE,2ONE,2SEVEN,2SIX,2THREE,2TWO,2ZERO",
   "1FRACTION ONE EIGHTH,3HALF,3QUARTER,3SIXTEENTH,2THREE QUARTERS,3SIXTEENTHS,1ISSHAR,1LETTER A",
   "2AA,2AI,2AU,2BA,2BHA,2CA,2CHA,2DA,2DDA,2DDHA,2DHA,2E,2GA,2GHA,2HA,2I,2II,2JA,2JHA,2KA,2KHA,2LA",
   "2LLA,2MA,2NA,2NGA,2NNA,2NYA,2O,2PA,2PHA,2RA,2RHA,2RRA,2SA,2SHA,2SSA,2TA,2THA,2TTA,2TTHA,2U,2UU",
   "2VA,2VOCALIC L,3LL,3R,3RR,2WA,2YA,2YYA,1SIGN ANUSVARA,2AVAGRAHA,2CANDRABINDU,2NUKTA,2OVERLINE",
   "2VIRAMA,2VISARGA,1VOWEL SIGN AA,3AI,3AU,3E,3I,3II,3O,3U,3UU,3VOCALIC L,4LL,4R,4RR",
   "0ORNATE LEFT PARENTHESIS,1RIGHT PARENTHESIS,0ORTHODOX CROSS,0OSAGE CAPITAL LETTER A,3AH,3AI",
   "3AIN,3BRA,3CHA,3DHA,3E,3EHCHA,3EHKA,3EHPA,3EHTA,3EHTSA,3EIN,3GHA,3HA,3HYA,3I,3KA,3KHA,3KYA,3LA",
   "3MA,3NA,3O,3OIN,3PA,3SA,3SHA,3TA,3TSA,3TSHA,3U,3WA,3ZA,3ZHA,1SMALL LETTER A,3AH,3AI,3AIN,3BRA",
   "3CHA,3DHA,3E,3EHCHA,3EHKA,3EHPA,3EHTA,3EHTSA,3EIN,3GHA,3HA,3HYA,3I,3KA,3KHA,3KYA,3LA,3MA,3NA",
   "3O,3OIN,3PA,3SA,3SHA,3TA,3TSA,3TSHA,3U,3WA,3ZA,3ZHA,0OSC,0OSMANYA DIGIT EIGHT,2FIVE,2FOUR",
   "2NINE,2ONE,2SEVEN,2SIX,2THREE,2TWO,2ZERO,1LETTER A,2AA,2ALEF,2BA,2CAYN,2DEEL,2DHA,2E,2EE,2FA",
   "2GA,2HA,2I,2JA,2KAAF,2KHA,2LAAN,2MIIN,2NUUN,2O,2OO,2QAAF,2RA,2SA,2SHIIN,2TA,2U,2WAW,2XA,2YA",
   "0OTTER,0OTTOMAN SIYAQ ALTERNATE NUMBER EIGHT,4FIVE,4FOUR,5HUNDRED,4NINE,4SEVEN,4SIX,5HUNDRED",
   "4TEN,5THOUSAND,4THREE,4TWO,5THOUSAND,2FRACTION ONE HALF,4SIXTH,2MARRATAN,2NUMBER EIGHT",
   "4HUNDRED,4THOUSAND,3EIGHTY,4THOUSAND,3FIFTY,4THOUSAND,3FIVE,4HUNDRED,4THOUSAND,3FORTY",
   "4THOUSAND,3FOUR,4HUNDRED,4THOUSAND,3NINE,4HUNDRED,4THOUSAND,3NINETY,4THOUSAND,3ONE,4HUNDRED",
   "4THOUSAND,3SEVEN,4HUNDRED,4THOUSAND,3SEVENTY,4THOUSAND,3SIX,4HUNDRED,4THOUSAND,3SIXTY",
   "4THOUSAND,3TEN,4THOUSAND,3THIRTY,4THOUSAND,3THREE,4HUNDRED,4THOUSAND,3TWENTY,4THOUSAND,3TWO",
   "4HUNDRED,4THOUSAND,0OUNCE SIGN,0OUTBOX TRAY,0OUTLINED BLACK STAR,1GREEK CROSS,1LATIN CROSS",
   "1WHITE STAR,0OVERHEATED FACE,0OVERLAP,0OVERLAPPING BLACK SQUARES,1WHITE AND BLACK SQUARES",
   "2SQUARES,0OVERLINE,0OWL,0OX,0OYSTER,0PACKAGE,0PAD,0PADDING CHARACTER,0PAGE,1FACING UP",
   "1WITH CIRCLED TEXT,2CURL,0PAGER,0PAGES,0PAGODA,0PAHAWH HMONG CLAN SIGN FAJ,4HAM,4HAWJ,4KHAB",
   "4KOO,4KWM,4LAUJ,4LIS,4MUAS,4PHAB,4THOJ,4TSAB,4TSHEEJ,4TSWB,4VAJ,4VWJ,4XYOOJ,4YAJ,4YEEG",
   "2CONSONANT AU,3CAU,3CHAU,3HAU,3HLAU,3HNAU,3LAU,3MAU,3NAU,3NCHAU,3NKAU,3NLAU,3NTHAU,3NTSAU",
   "3PLHAU,3QHAU,3RAU,3VAU,3XAU,3YAU,2DIGIT EIGHT,3FIVE,3FOUR,3NINE,3ONE,3SEVEN,3SIX,3THREE,3TWO",
   "3ZERO,2MARK CIM HOM,4KES,4KHAV,4SO,4SUAM,4TAUM,4TUB,2NUMBER HUNDRED MILLIONS,3HUNDREDS",
   "3MILLIONS,3TEN BILLIONS,4THOUSANDS,3TENS,3TRILLIONS,2SIGN AV,3CIM CHEEM,4CUAM TSHOOJ",
   "4HAIS LUS NTOG NTOG,4NRES TOS,4PUB DAWB,4TSOV ROG,4TXWV,5CHWV,3HLI,3HNUB,3IB YAM,3LOS",
   "3MEEJ SUAB,4TSEEB,3MUS,3NQIG,3NTUJ,3TAU,3THIRD-STAGE HLI,3TXHEEJ CEEV,3VOS FEEM,4LUB,4NRUA",
   "4SEEV,4THIAB,4THOM,4TSHAB CEEB,3XAUS,3XIAB,3XYEEM FAIB,4NTXIV,4RHO,4TOV,3XYOO,3ZWJ THAJ",
   "2VOWEL KAAB,3KAAV,3KAB,3KAIB,3KAIV,3KAUB,3KAUV,3KAV,3KAWB,3KAWV,3KEB,3KEEB,3KEEV,3KEV,3KIAB",
   "3KIAV,3KIB,3KIV,3KOB,3KOOB,3KOOV,3KOV,3KUAB,3KUAV,3KUB,3KUV,3KWB,3KWV,0PALLAS,0PALM BRANCH",
   "1DOWN HAND,1TREE,1UP HAND,0PALMS UP TOGETHER,0PALMYRENE LEFT-POINTING FLEURON,1LETTER ALEPH",
   "2AYIN,2BETH,2DALETH,2FINAL NUN,2GIMEL,2HE,2HETH,2KAPH,2LAMEDH,2MEM,2NUN,2PE,2QOPH,2RESH,2SADHE",
   "2SAMEKH,2SHIN,2TAW,2TETH,2WAW,2YODH,2ZAYIN,1NUMBER FIVE,2FOUR,2ONE,2TEN,2THREE,2TWENTY,2TWO",
   "1RIGHT-POINTING FLEURON,0PANCAKES,0PANDA FACE,0PAPERCLIP,0PARACHUTE,0PARAGRAPH SEPARATOR",
   "0PARAGRAPHOS,0PARAGRAPHUS MARK,0PARALLEL TO,1WITH HORIZONTAL STROKE,2TILDE OPERATOR",
   "0PARENTHESIZED DIGIT EIGHT,2FIVE,2FOUR,2NINE,2ONE,2SEVEN,2SIX,2THREE,2TWO,1HANGUL CHIEUCH,3A",
   "2CIEUC,3A,3U,2HIEUH,3A,2IEUNG,3A,2KHIEUKH,3A,2KIYEOK,3A,2MIEUM,3A,2NIEUN,3A,2PHIEUPH,3A,2PIEUP",
   "3A,2RIEUL,3A,2SIOS,3A,2THIEUTH,3A,2TIKEUT,3A,1IDEOGRAPH ALLIANCE,2CALL,2CONGRATULATION,2EARTH",
   "2EIGHT,2ENTERPRISE,2FESTIVAL,2FINANCIAL,2FIRE,2FIVE,2FOUR,2HAVE,2LABOR,2METAL,2MOON,2NAME",
   "2NINE,2ONE,2REACH,2REPRESENT,2RESOURCE,2REST,2SELF,2SEVEN,2SIX,2SOCIETY,2SPECIAL,2STOCK,2STUDY",
   "2SUN,2SUPERVISE,2TEN,2THREE,2TWO,2WATER,2WOOD,1KOREAN CHARACTER O HU,3OJEON",
   "1LATIN CAPITAL LETTER A,4B,4C,4D,4E,4F,4G,4H,4I,4J,4K,4L,4M,4N,4O,4P,4Q,4R,4S,4T,4U,4V,4W,4X",
   "4Y,4Z,2SMALL LETTER A,4B,4C,4D,4E,4F,4G,4H,4I,4J,4K,4L,4M,4N,4O,4P,4Q,4R,4S,4T,4U,4V,4W,4X,4Y",
   "4Z,1NUMBER EIGHTEEN,2ELEVEN,2FIFTEEN,2FOURTEEN,2NINETEEN,2SEVENTEEN,2SIXTEEN,2TEN,2THIRTEEN",
   "2TWELVE,2TWENTY,0PARROT,0PART ALTERNATION MARK,0PARTIAL DIFFERENTIAL,1LINE BACKWARD,2DOWN",
   "2FORWARD,2UP,0PARTIALLY-RECYCLED PAPER SYMBOL,0PARTNERSHIP SIGN,0PARTY POPPER,0PASSED SYMBOL",
   "0PASSENGER SHIP,0PASSIVE-PULL-DOWN-OUTPUT SYMBOL,0PASSIVE-PULL-UP-OUTPUT SYMBOL",
   "0PASSPORT CONTROL,0PAU CIN HAU GLOTTAL STOP,5FINAL,5VARIANT,3LETTER A,4BA,4CA,4CHA,4DA,4E,4FA",
   "4FINAL K,5L,5M,5N,5NG,5P,5T,5W,5Y,4GA,4HA,4I,4IA,4KA,4KHA,4LA,4MA,4NA,4NGA,4O,4PA,4PHA,4RA,4SA",
   "4TA,4THA,4U,4UA,4VA,4ZA,3LOW-FALLING TONE,5FINAL,5LONG,6FINAL,3MID-LEVEL TONE,5FINAL",
   "5LONG FINAL,3RISING TONE,5FINAL,5LONG,6FINAL,3SANDHI GLOTTAL STOP,6FINAL,4TONE,5FINAL,5LONG",
   "6FINAL,0PAW PRINTS,0PDF,0PDI,0PEACE SYMBOL,0PEACH,0PEACOCK,0PEANUTS,0PEAR,0PEDESTRIAN",
   "0PEN OVER STAMPED ENVELOPE,0PENCIL,0PENGUIN,0PENSIVE FACE,0PENTAGRAM,0PEOPLE HUGGING",
   "0PER MILLE SIGN,1SIGN,1TEN THOUSAND SIGN,0PERCENT SIGN,0PERFORMING ARTS,0PERMANENT PAPER SIGN",
   "0PERPENDICULAR,1WITH S,0PERSEVERING FACE,0PERSON BOWING DEEPLY,1CLIMBING,1DOING CARTWHEEL",
   "1FROWNING,1IN LOTUS POSITION,2STEAMY ROOM,1RAISING BOTH HANDS IN CELEBRATION,1WITH BALL",
   "2BLOND HAIR,2CROWN,2FOLDED HANDS,2HEADSCARF,2POUTING FACE,0PERSONAL COMPUTER,0PERSPECTIVE",
   "0PESETA SIGN,0PESO SIGN,0PETRI DISH,0PHAGS-PA DOUBLE HEAD MARK,1LETTER A,2ALTERNATE YA",
   "2ASPIRATED FA,2BA,2CA,2CANDRABINDU,2CHA,2DA,2DDA,2DZA,2E,2EE,2FA,2GA,2GGA,2HA,2I,2JA,2KA,2KHA",
   "2LA,2MA,2NA,2NGA,2NNA,2NYA,2O,2PA,2PHA,2QA,2RA,2SA,2SHA,2SMALL A,2TA,2THA,2TSA,2TSHA,2TTA",
   "2TTHA,2U,2VOICED HA,2VOICELESS SHA,2WA,2XA,2YA,2ZA,2ZHA,1MARK DOUBLE SHAD,2SHAD",
   "1SINGLE HEAD MARK,1SUBJOINED LETTER RA,3WA,3YA,1SUPERFIXED LETTER RA,0PHAISTOS DISC SIGN ARROW",
   "3BEE,3BEEHIVE,3BOOMERANG,3BOW,3BULLS LEG,3CAPTIVE,3CARPENTRY PLANE,3CAT,3CHILD,3CLUB,3COLUMN",
   "3COMB,3COMBINING OBLIQUE STROKE,3DOLIUM,3DOVE,3EAGLE,3FLUTE,3GAUNTLET,3GRATER,3HELMET,3HIDE",
   "3HORN,3LID,3LILY,3MANACLES,3MATTOCK,3OX BACK,3PAPYRUS,3PEDESTRIAN,3PLANE TREE,3PLUMED HEAD",
   "3RAM,3ROSETTE,3SAW,3SHIELD,3SHIP,3SLING,3SMALL AXE,3STRAINER,3TATTOOED HEAD,3TIARA,3TUNNY",
   "3VINE,3WAVY BAND,3WOMAN,0PHILIPPINE DOUBLE PUNCTUATION,1SINGLE PUNCTUATION",
   "0PHOENICIAN LETTER AIN,2ALF,2BET,2DELT,2GAML,2HE,2HET,2KAF,2LAMD,2MEM,2NUN,2PE,2QOF,2ROSH",
   "2SADE,2SEMK,2SHIN,2TAU,2TET,2WAU,2YOD,2ZAI,1NUMBER ONE,3HUNDRED,2TEN,2THREE,2TWENTY,2TWO",
   "1WORD SEPARATOR,0PHOLUS,0PICK,0PICKUP TRUCK,0PIE,0PIG,1FACE,1NOSE,0PILCROW SIGN,0PILE OF POO",
   "0PILL,0PINATA,0PINCHED FINGERS,0PINCHING HAND,0PINE DECORATION,0PINEAPPLE,0PINWHEEL STAR",
   "0PISCES,0PISTOL,0PITCHFORK,1WITH TEE TOP,0PLACARD,0PLACE OF INTEREST SIGN,2WORSHIP",
   "0PLANCK CONSTANT,2OVER TWO PI,0PLAYGROUND SLIDE,0PLAYING CARD ACE OF CLUBS,4DIAMONDS,4HEARTS",
   "4SPADES,2BACK,2BLACK JOKER,2EIGHT OF CLUBS,4DIAMONDS,4HEARTS,4SPADES,2FIVE OF CLUBS,4DIAMONDS",
   "4HEARTS,4SPADES,2FOOL,2FOUR OF CLUBS,4DIAMONDS,4HEARTS,4SPADES,2JACK OF CLUBS,4DIAMONDS",
   "4HEARTS,4SPADES,2KING OF CLUBS,4DIAMONDS,4HEARTS,4SPADES,2KNIGHT OF CLUBS,4DIAMONDS,4HEARTS",
   "4SPADES,2NINE OF CLUBS,4DIAMONDS,4HEARTS,4SPADES,2QUEEN OF CLUBS,4DIAMONDS,4HEARTS,4SPADES",
   "2RED JOKER,2SEVEN OF CLUBS,4DIAMONDS,4HEARTS,4SPADES,2SIX OF CLUBS,4DIAMONDS,4HEARTS,4SPADES",
   "2TEN OF CLUBS,4DIAMONDS,4HEARTS,4SPADES,2THREE OF CLUBS,4DIAMONDS,4HEARTS,4SPADES,2TRUMP-1",
   "2TRUMP-10,2TRUMP-11,2TRUMP-12,2TRUMP-13,2TRUMP-14,2TRUMP-15,2TRUMP-16,2TRUMP-17,2TRUMP-18",
   "2TRUMP-19,2TRUMP-2,2TRUMP-20,2TRUMP-21,2TRUMP-3,2TRUMP-4,2TRUMP-5,2TRUMP-6,2TRUMP-7,2TRUMP-8",
   "2TRUMP-9,2TWO OF CLUBS,4DIAMONDS,4HEARTS,4SPADES,2WHITE JOKER,0PLD,0PLU,0PLUNGER,0PLUS SIGN",
   "2ABOVE EQUALS SIGN,2IN LEFT HALF CIRCLE,3RIGHT HALF CIRCLE,3TRIANGLE,2WITH BLACK TRIANGLE",
   "3CIRCUMFLEX ACCENT ABOVE,3DOT BELOW,3SMALL CIRCLE ABOVE,3SUBSCRIPT TWO,3TILDE ABOVE,4BELOW",
   "0PLUS-MINUS SIGN,0PLUTO,1FORM FIVE,2FOUR,2THREE,2TWO,0PM,0POCKET CALCULATOR,0POLICE CAR",
   "1CARS REVOLVING LIGHT,1OFFICER,0POODLE,0POP DIRECTIONAL FORMATTING,2ISOLATE,0POPCORN",
   "0PORTABLE STEREO,0POSEIDON,0POSITION INDICATOR,0POSTAL HORN,1MARK,2FACE,0POSTBOX,0POT OF FOOD",
   "0POTABLE WATER SYMBOL,0POTATO,0POTTED PLANT,0POUCH,0POULTRY LEG,0POUND SIGN,0POURING LIQUID",
   "0POUTING CAT FACE,1FACE,0POWER ON SYMBOL,1ON-OFF SYMBOL,1SLEEP SYMBOL,1SYMBOL,0PRAYER BEADS",
   "0PRECEDES,1ABOVE ALMOST EQUAL TO,2EQUALS SIGN,2NOT ALMOST EQUAL TO,3EQUAL TO",
   "2SINGLE-LINE EQUALS SIGN,3NOT EQUAL TO,1BUT NOT EQUIVALENT TO,1OR EQUAL TO,2EQUIVALENT TO",
   "1UNDER RELATION,0PREGNANT MAN,1PERSON,1WOMAN,0PRESCRIPTION TAKE",
   "0PRESENTATION FORM FOR VERTICAL COLON,4COMMA,4EM DASH,4EN DASH,4EXCLAMATION MARK",
   "4HORIZONTAL ELLIPSIS,4IDEOGRAPHIC COMMA,5FULL STOP,4LEFT ANGLE BRACKET",
   "5BLACK LENTICULAR BRACKET,5CORNER BRACKET,5CURLY BRACKET,5DOUBLE ANGLE BRACKET,5PARENTHESIS",
   "5SQUARE BRACKET,5TORTOISE SHELL BRACKET,5WHITE CORNER BRACKET,6LENTICULAR BRACKET,4LOW LINE",
   "4QUESTION MARK,4RIGHT ANGLE BRACKET,5BLACK LENTICULAR BRACKET,5CORNER BRACKET,5CURLY BRACKET",
   "5DOUBLE ANGLE BRACKET,5PARENTHESIS,5SQUARE BRACKET,5TORTOISE SHELL BRACKET",
   "5WHITE CORNER BRACKET,6LENTICULAR BRACKET,7BRAKCET,4SEMICOLON,4TWO DOT LEADER,4WAVY LOW LINE",
   "0PRETZEL,0PREVIOUS PAGE,0PRIME,0PRINCE,0PRINCESS,0PRINT SCREEN SYMBOL,0PRINTER,1ICON",
   "0PRIVACY MESSAGE,0PRIVATE USE ONE,2TWO,1USE-1,1USE-2,0PROBING CANE,0PROHIBITED SIGN",
   "0PROJECTIVE,0PROPERTY LINE,0PROPORTION,0PROPORTIONAL TO,0PROSERPINA",
   "0PSALTER PAHLAVI FOUR DOTS WITH CROSS,5DOT,2LETTER ALEPH,3BETH,3DALETH,3GIMEL,3HE,3HETH,3KAPH",
   "3LAMEDH,3MEM-QOPH,3NUN,3PE,3SADHE,3SAMEKH,3SHIN,3TAW,3WAW-AYIN-RESH,3YODH,3ZAYIN,2NUMBER FOUR",
   "3ONE,4HUNDRED,3TEN,3THREE,3TWENTY,3TWO,2SECTION MARK,2TURNED SECTION MARK,0PU1,0PU2",
   "0PUBLIC ADDRESS LOUDSPEAKER,0PUNCTUATION SPACE,0PUNCTUS ELEVATUS MARK,0PURPLE HEART,0PURSE",
   "0PUSHPIN,0PUT LITTER IN ITS PLACE SYMBOL,0QUADRANT LOWER LEFT,2RIGHT,1UPPER LEFT",
   "3AND LOWER LEFT AND LOWER RIGHT,5RIGHT,4UPPER RIGHT AND LOWER LEFT,8RIGHT,2RIGHT",
   "3AND LOWER LEFT,6AND LOWER RIGHT,0QUADRUPLE INTEGRAL OPERATOR,1PRIME,0QUARTER NOTE",
   "0QUATERNION INTEGRAL OPERATOR,0QUESTION EXCLAMATION MARK,1MARK,0QUESTIONED EQUAL TO,0QUINCUNX",
   "0QUOTATION MARK"]

end Text
end Typings
