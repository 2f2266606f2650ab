/-!
# Names of characters from R to S

`Text.namesFromRToS` holds names in rows of entries with commas between them. An entry starts with
a hexadecimal digit, the number of words that it shares with the name in front of it; its other
words follow.
-/

namespace Typings
namespace Text

def namesFromRToS : List String :=
  ["0RABBIT,1FACE,0RACCOON,0RACING CAR,1MOTORCYCLE,0RADICAL SYMBOL BOTTOM,0RADIO,1BUTTON",
   "0RADIOACTIVE SIGN,0RAILWAY CAR,1TRACK,0RAIN,0RAINBOW,0RAISED BACK OF HAND,1COMMA,1DOT",
   "1DOTTED INTERPOLATION MARKER,1FIST,1HAND,2WITH FINGERS SPLAYED",
   "3PART BETWEEN MIDDLE AND RING FINGERS,1INTERPOLATION MARKER,1MC SIGN,1MD SIGN,1MR SIGN,1SQUARE",
   "0RAM,0RAT,0RATIO,0RAZOR,0RECEIPT,0RECORD SEPARATOR,0RECREATIONAL VEHICLE",
   "0RECYCLED PAPER SYMBOL,0RECYCLING SYMBOL FOR GENERIC MATERIALS,3TYPE-1 PLASTICS",
   "3TYPE-2 PLASTICS,3TYPE-3 PLASTICS,3TYPE-4 PLASTICS,3TYPE-5 PLASTICS,3TYPE-6 PLASTICS",
   "3TYPE-7 PLASTICS,0RED APPLE,1GIFT ENVELOPE,0REFERENCE MARK,0REGIONAL INDICATOR SYMBOL LETTER A",
   "4B,4C,4D,4E,4F,4G,4H,4I,4J,4K,4L,4M,4N,4O,4P,4Q,4R,4S,4T,4U,4V,4W,4X,4Y,4Z,0REGISTERED SIGN",
   "0REJANG CONSONANT SIGN H,3N,3NG,3R,1LETTER A,2BA,2CA,2DA,2GA,2HA,2JA,2KA,2LA,2MA,2MBA,2NA,2NDA",
   "2NGA,2NGGA,2NYA,2NYJA,2PA,2RA,2SA,2TA,2WA,2YA,1SECTION MARK,1VIRAMA,1VOWEL SIGN AI,3AU,3E,3EA",
   "3EU,3I,3O,3U,0RELIEVED FACE,0REMINDER RIBBON,0REPLACEMENT CHARACTER,0RESPONSE",
   "0RESTRICTED LEFT ENTRY-1,2ENTRY-2,0RESTROOM,0RETURN LEFT,1RIGHT,1SYMBOL,0REVERSE CHECKER BOARD",
   "1INDEX,1LIGHT FOUR POINTED PINWHEEL STAR,1LINE FEED,1SOLIDUS,2OPERATOR,2PRECEDING SUBSET",
   "2WITH HORIZONTAL STROKE,1TILDE OPERATOR ABOVE LEFTWARDS ARROW,4RIGHTWARDS ARROW",
   "0REVERSED ANGLE,2WITH UNDERBAR,1COMMA,1DOUBLE PRIME,3QUOTATION MARK,2STROKE NOT SIGN",
   "1EMPTY SET,1FORKED PARAGRAPHOS,1HAND WITH MIDDLE FINGER EXTENDED,1NOT SIGN,1PILCROW SIGN",
   "1PRIME,1QUESTION MARK,1RAISED HAND WITH FINGERS SPLAYED,1RIGHT ANGLE",
   "1ROTATED FLORAL HEART BULLET,1SANS-SERIF CAPITAL L,1SEMICOLON,1THUMBS DOWN SIGN,2UP SIGN",
   "1TILDE,2EQUALS,1TRIPLE PRIME,1VICTORY HAND,0REVOLVING HEARTS,0RHINOCEROS,0RI,0RIAL SIGN",
   "0RIBBON,1ARROW DOWN LEFT,3RIGHT,2LEFT DOWN,3UP,2RIGHT DOWN,3UP,2UP LEFT,3RIGHT,0RICE BALL",
   "1CRACKER,0RIFLE,0RIGHT AND LOWER ONE EIGHTH BLOCK,2UPPER ONE EIGHTH BLOCK,1ANGER BUBBLE,1ANGLE",
   "2BRACKET,3WITH DOT,2DOTTED SUBSTITUTION MARKER,2SUBSTITUTION MARKER,2VARIANT WITH SQUARE",
   "2WITH ARC,3DOWNWARDS ZIGZAG ARROW,1ARC GREATER-THAN BRACKET,1ARROW WITH CIRCLED PLUS",
   "3SMALL CIRCLE,1BLACK LENTICULAR BRACKET,2TORTOISE SHELL BRACKET,1CEILING,1CORNER BRACKET",
   "1CURLY BRACKET,3LOWER HOOK,3MIDDLE PIECE,3UPPER HOOK,1DOTTED SUBSTITUTION BRACKET",
   "1DOUBLE ANGLE BRACKET,2ARROW WITH ROUNDED HEAD,2PARENTHESIS,2QUOTATION MARK,2WIGGLY FENCE",
   "1FISH TAIL,1FIVE EIGHTHS BLOCK,1FLOOR,1HALF BLACK CIRCLE,3STAR,2BLOCK,2FOLDER,2MEDIUM SHADE",
   "2RUNNING MAN,1HAND TELEPHONE RECEIVER,1LOW PARAPHRASE BRACKET",
   "1NORMAL FACTOR SEMIDIRECT PRODUCT,1ONE EIGHTH BLOCK,2QUARTER BLOCK,1OPEN SQUARED DOT",
   "1OUTER JOIN,1PARENTHESIS,2EXTENSION,2LOWER HOOK,2UPPER HOOK,1RAISED OMISSION BRACKET",
   "1S-SHAPED BAG DELIMITER,1SEMIDIRECT PRODUCT,1SEVEN EIGHTHS BLOCK,1SIDEWAYS U BRACKET",
   "1SINGLE QUOTATION MARK,1SPEAKER,2WITH ONE SOUND WAVE,3THREE SOUND WAVES,1SPEECH BUBBLE",
   "1SQUARE BRACKET,3EXTENSION,3LOWER CORNER,3UPPER CORNER,3WITH DOUBLE STROKE,4QUILL,4STROKE",
   "4TICK IN BOTTOM CORNER,6TOP CORNER,4UNDERBAR,1SUBSTITUTION BRACKET,1TACK",
   "1THIRD WHITE RIGHT POINTING INDEX,1THOUGHT BUBBLE,1THREE EIGHTHS BLOCK,2QUARTERS BLOCK",
   "1TORTOISE SHELL BRACKET,1TRANSPOSITION BRACKET,1TRIANGLE,2ABOVE LEFT TRIANGLE",
   "1TRIANGULAR ONE QUARTER BLOCK,1VERTICAL BAR WITH QUILL,2BOX LINE,1WHITE CORNER BRACKET",
   "2CURLY BRACKET,2LENTICULAR BRACKET,2PARENTHESIS,2SQUARE BRACKET,2TORTOISE SHELL BRACKET",
   "1WIGGLY FENCE,0RIGHT-FACING ARMENIAN ETERNITY SIGN,1FIST,1SVASTI SIGN,3WITH DOTS",
   "0RIGHT-HANDED INTERLACED PENTAGRAM,0RIGHT-POINTING ANGLE BRACKET,1CURVED ANGLE BRACKET",
   "1DOUBLE ANGLE QUOTATION MARK,1MAGNIFYING GLASS,0RIGHT-SHADED WHITE RIGHTWARDS ARROW",
   "0RIGHT-SIDE ARC CLOCKWISE ARROW,0RIGHT-TO-LEFT EMBEDDING,1ISOLATE,1MARK,1OVERRIDE",
   "0RIGHTHAND INTERIOR PRODUCT,0RIGHTWARDS ARROW,2ABOVE ALMOST EQUAL TO,3REVERSE ALMOST EQUAL TO",
   "4TILDE OPERATOR,3SHORT LEFTWARDS ARROW,3TILDE OPERATOR,2AND UPPER AND LOWER ONE EIGHTH BLOCK",
   "2FROM BAR,4TO BLACK DIAMOND,2OVER LEFTWARDS ARROW,2THROUGH GREATER-THAN,3SUPERSET,3X,2TO BAR",
   "3BLACK DIAMOND,2WITH CORNER DOWNWARDS,3DOTTED STEM,3DOUBLE VERTICAL STROKE",
   "3EQUILATERAL ARROWHEAD,3HOOK,3LARGE TRIANGLE ARROWHEAD,3LOOP,3MEDIUM TRIANGLE ARROWHEAD",
   "3NOTCHED TAIL,3PLUS BELOW,3SMALL EQUILATERAL ARROWHEAD,4TRIANGLE ARROWHEAD,3STROKE,3TAIL",
   "4WITH DOUBLE VERTICAL STROKE,5VERTICAL STROKE,3TIP DOWNWARDS,4UPWARDS,3VERTICAL STROKE",
   "1ARROW-TAIL,1BACK-TILTED SHADOWED WHITE ARROW,1BLACK ARROW,2CIRCLED WHITE ARROW",
   "1BOTTOM SHADED WHITE ARROW,1COMPRESSED ARROW,1DASHED ARROW,1DOUBLE ARROW,3FROM BAR",
   "3WITH STROKE,4VERTICAL STROKE,2ARROW-TAIL,2DASH ARROW,1FINGER-POST ARROW",
   "1FRONT-TILTED SHADOWED WHITE ARROW,1HAND,1HARPOON OVER LEFTWARDS HARPOON",
   "2WITH BARB DOWN ABOVE LEFTWARDS HARPOON WITH BARB DOWN,5BELOW LONG DASH,5FROM BAR,5TO BAR",
   "4DOWNWARDS,4UP ABOVE LEFTWARDS HARPOON WITH BARB UP,6LONG DASH",
   "6RIGHTWARDS HARPOON WITH BARB DOWN,5FROM BAR,5TO BAR,4UPWARDS,1HEAVY ARROW,2COMPRESSED ARROW",
   "1LEFT-SHADED WHITE ARROW,1OPEN-HEADED ARROW,1PAIRED ARROWS,1QUADRUPLE ARROW",
   "1RIGHT-SHADED WHITE ARROW,1ROCKET,1SANS-SERIF ARROW,1SQUARED ARROW,1SQUIGGLE ARROW",
   "1TOP SHADED WHITE ARROW,1TRIANGLE ARROWHEAD,1TRIANGLE-HEADED ARROW",
   "3OVER LEFTWARDS TRIANGLE-HEADED ARROW,3TO BAR,3WITH BOLD SHAFT,4DOUBLE HORIZONTAL STROKE",
   "5VERTICAL STROKE,4HEAVY SHAFT,4LONG TIP DOWNWARDS,6UPWARDS,4MEDIUM SHAFT,4NARROW SHAFT",
   "4VERY HEAVY SHAFT,2DASHED ARROW,2PAIRED ARROWS,1TRIPLE ARROW,2DASH ARROW,1TWO HEADED ARROW",
   "1TWO-HEADED ARROW FROM BAR,3WITH DOUBLE VERTICAL STROKE,4TAIL,5WITH DOUBLE VERTICAL STROKE",
   "6VERTICAL STROKE,4TRIANGLE ARROWHEADS,4VERTICAL STROKE,2TRIPLE DASH ARROW,1WAVE ARROW",
   "1WHITE ARROW,3FROM WALL,3WITHIN TRIANGLE ARROWHEAD,0RING,1ABOVE,1BUOY,1EQUAL TO,1IN EQUAL TO",
   "1OPERATOR,1POINT,0RINGED PLANET,0RINGING BELL,0RISING DIAGONAL CROSSING FALLING DIAGONAL",
   "3SOUTH EAST ARROW,0RLE,0RLI,0RLM,0RLO,0ROASTED SWEET POTATO,0ROBOT FACE,0ROCK,0ROCKET",
   "0ROLL OF PAPER,0ROLLED-UP NEWSPAPER,0ROLLER COASTER,1SKATE,0ROLLING ON THE FLOOR LAUGHING",
   "0ROMAN AS SIGN,1CENTURIAL SIGN,1DENARIUS SIGN,1DIMIDIA SEXTULA SIGN,1DUPONDIUS SIGN",
   "1NUMERAL EIGHT,2ELEVEN,2FIFTY,3EARLY FORM,3THOUSAND,2FIVE,3HUNDRED,3THOUSAND,2FOUR,2NINE,2ONE",
   "3HUNDRED,4THOUSAND,3THOUSAND,4C D,2REVERSED ONE HUNDRED,2SEVEN,2SIX,3LATE FORM,2TEN,3THOUSAND",
   "2THREE,2TWELVE,2TWO,1QUINARIUS SIGN,1SEMUNCIA SIGN,1SESTERTIUS SIGN,1SEXTANS SIGN",
   "1SEXTULA SIGN,1SILIQUA SIGN,1UNCIA SIGN,0ROOSTER,0ROSE,0ROSETTE,0ROTATED CAPITAL Q",
   "1FLORAL HEART BULLET,1HEAVY BLACK HEART BULLET,1LIGHT FOUR POINTED BLACK CUSP",
   "1WHITE FOUR POINTED CUSP,0ROUND PUSHPIN,1TARGET,0ROUNDED SYMBOL FOR CAI,3FU,3LU,3SHOU",
   "3SHUANGXI,3XI,0ROWBOAT,0RS,0RUBLE SIGN,0RUGBY FOOTBALL,0RULE-DELAYED,0RUMI DIGIT EIGHT,2FIVE",
   "2FOUR,2NINE,2ONE,2SEVEN,2SIX,2THREE,2TWO,1FRACTION ONE HALF,3QUARTER,3THIRD,2TWO THIRDS",
   "1NUMBER EIGHT HUNDRED,2EIGHTY,2FIFTY,2FIVE HUNDRED,2FORTY,2FOUR HUNDRED,2NINE HUNDRED,2NINETY",
   "2ONE HUNDRED,2SEVEN HUNDRED,2SEVENTY,2SIX HUNDRED,2SIXTY,2TEN,2THIRTY,2THREE HUNDRED,2TWENTY",
   "2TWO HUNDRED,0RUNIC ARLAUG SYMBOL,1BELGTHOR SYMBOL,1CROSS PUNCTUATION,1LETTER AC A,2AESC",
   "2ALGIZ EOLHX,2ANSUZ A,2BERKANAN BEORC BJARKAN B,2C,2CALC,2CEALC,2CEN,2CWEORTH,2D,2DAGAZ DAEG D",
   "2DOTTED-L,2DOTTED-N,2DOTTED-P,2E,2EAR,2EHWAZ EH E,2ENG,2ETH,2FEHU FEOH FE F,2FRANKS CASKET AC",
   "4AESC,4EH,4IS,4OS,2G,2GAR,2GEBO GYFU G,2GER,2HAEGL H,2HAGLAZ H,2ICELANDIC-YR,2ING,2INGWAZ,2IOR",
   "2ISAZ IS ISS I,2IWAZ EOH,2JERAN J,2K,2KAUN K,2KAUNA,2LAUKAZ LAGU LOGR L,2LONG-BRANCH-AR AE",
   "2LONG-BRANCH-HAGALL H,2LONG-BRANCH-MADR M,2LONG-BRANCH-OSS O,2LONG-BRANCH-YR,2MANNAZ MAN M",
   "2NAUDIZ NYD NAUD N,2O,2OE,2ON,2OO,2OPEN-P,2OS O,2OTHALAN ETHEL O,2PERTHO PEORTH P,2Q",
   "2RAIDO RAD REID R,2SH,2SHORT-TWIG-AR A,2SHORT-TWIG-BJARKAN B,2SHORT-TWIG-HAGALL H",
   "2SHORT-TWIG-MADR M,2SHORT-TWIG-NAUD N,2SHORT-TWIG-OSS O,2SHORT-TWIG-SOL S,2SHORT-TWIG-TYR T",
   "2SHORT-TWIG-YR,2SIGEL LONG-BRANCH-SOL S,2SOWILO S,2STAN,2THURISAZ THURS THORN,2TIWAZ TIR TYR T",
   "2URUZ UR U,2V,2W,2WUNJO WYNN W,2X,2Y,2YR,2Z,1MULTIPLE PUNCTUATION,1SINGLE PUNCTUATION",
   "1TVIMADUR SYMBOL,0RUNNER,0RUNNING SHIRT WITH SASH,0RUPEE SIGN",
   "0RUSSIAN ASTROLOGICAL SYMBOL BINOVILE,3NOVILE,3QUINTILE,3SENTAGON,3TREDECILE,3VIGINTILE",
   "0S IN TRIANGLE,0SAFETY PIN,1VEST,0SAGITTARIUS,0SAILBOAT,0SAKE BOTTLE AND CUP,0SALT SHAKER",
   "0SALTIRE,0SALUTING FACE,0SAMARITAN ABBREVIATION MARK,1LETTER ALAF,2BAA,2BIT,2DALAT,2FI,2GAMAN",
   "2IN,2IT,2IY,2KAAF,2LABAT,2MIM,2NUN,2QUF,2RISH,2SHAN,2SINGAAT,2TAAF,2TIT,2TSAADIY,2YUT,2ZEN",
   "1MARK DAGESH,2EPENTHETIC YUT,2IN,2IN-ALAF,2NEQUDAA,2OCCLUSION,1MODIFIER LETTER EPENTHETIC YUT",
   "3I,3SHORT A,1PUNCTUATION AFSAAQ,2ANGED,2ANNAAU,2ARKAANU,2ATMAAU,2BAU,2MELODIC QITSA,2NEQUDAA",
   "2QITSA,2SHIYYAALAA,2SOF MASHFAAT,2TURU,2ZAEF,2ZIQAA,1VOWEL SIGN A,3AA,3E,3I,3LONG A,4AA,4E,4I",
   "4U,3O,3OVERLONG A,4AA,3SHORT A,3SUKUN,3U,0SANDWICH",
   "0SANS-SERIF HEAVY DOUBLE COMMA QUOTATION MARK ORNAMENT,3TURNED COMMA QUOTATION MARK ORNAMENT",
   "2LOW DOUBLE COMMA QUOTATION MARK ORNAMENT,1INTERROBANG ORNAMENT,0SARI,0SATELLITE,1ANTENNA",
   "0SATURN,0SAURASHTRA CONSONANT SIGN HAARU,1DANDA,1DIGIT EIGHT,2FIVE,2FOUR,2NINE,2ONE,2SEVEN",
   "2SIX,2THREE,2TWO,2ZERO,1DOUBLE DANDA,1LETTER A,2AA,2AI,2AU,2BA,2BHA,2CA,2CHA,2DA,2DDA,2DDHA",
   "2DHA,2E,2EE,2GA,2GHA,2HA,2I,2II,2JA,2JHA,2KA,2KHA,2LA,2LLA,2MA,2NA,2NGA,2NNA,2NYA,2O,2OO,2PA",
   "2PHA,2RA,2SA,2SHA,2SSA,2TA,2THA,2TTA,2TTHA,2U,2UU,2VA,2VOCALIC L,3LL,3R,3RR,2YA,1SIGN ANUSVARA",
   "2CANDRABINDU,2VIRAMA,2VISARGA,1VOWEL SIGN AA,3AI,3AU,3E,3EE,3I,3II,3O,3OO,3U,3UU,3VOCALIC L",
   "4LL,4R,4RR,0SAUROPOD,0SAXOPHONE,0SCALES,0SCARF,0SCHOOL,1SATCHEL,0SCI,0SCOOTER,0SCORPION",
   "0SCORPIUS,0SCREEN,0SCREWDRIVER,0SCRIPT CAPITAL B,2E,2F,2H,2I,2L,2M,2P,2R,1LIGATURE ET ORNAMENT",
   "1SMALL E,2G,2L,2O,0SCROLL,0SCRUPLE,0SEAL,0SEAT,0SECOND PLACE MEDAL,0SECTION SIGN,0SECTOR",
   "0SEDNA,0SEE-NO-EVIL MONKEY,0SEEDLING,0SEGMENT,0SEGMENTED DIGIT EIGHT,2FIVE,2FOUR,2NINE,2ONE",
   "2SEVEN,2SIX,2THREE,2TWO,2ZERO,0SELFIE,0SEMICOLON,0SEMIDIRECT PRODUCT WITH BOTTOM CLOSED",
   "0SEMISEXTILE,0SEPARATED SYMBOL,0SERIOUS FACE WITH SYMBOLS COVERING MOUTH,0SERVICE MARK",
   "0SESAME DOT,0SESQUIQUADRATE,0SET MINUS,1TRANSMIT STATE,0SEWING NEEDLE,0SEXTILE,0SGC",
   "0SHADOWED WHITE CIRCLE,2LATIN CROSS,2STAR,0SHALLOW PAN OF FOOD,0SHAMROCK",
   "0SHARADA ABBREVIATION SIGN,1CONTINUATION SIGN,1DANDA,1DIGIT EIGHT,2FIVE,2FOUR,2NINE,2ONE",
   "2SEVEN,2SIX,2THREE,2TWO,2ZERO,1DOUBLE DANDA,1EKAM,1EXTRA SHORT VOWEL MARK,1HEADSTROKE",
   "1LETTER A,2AA,2AI,2AU,2BA,2BHA,2CA,2CHA,2DA,2DDA,2DDHA,2DHA,2E,2GA,2GHA,2HA,2I,2II,2JA,2JHA",
   "2KA,2KHA,2LA,2LLA,2MA,2NA,2NGA,2NNA,2NYA,2O,2PA,2PHA,2RA,2SA,2SHA,2SSA,2TA,2THA,2TTA,2TTHA,2U",
   "2UU,2VA,2VOCALIC L,3LL,3R,3RR,2YA,1OM,1SANDHI MARK,1SECTION MARK-1,2MARK-2,1SEPARATOR",
   "1SIGN ANUSVARA,2AVAGRAHA,2CANDRABINDU,2INVERTED CANDRABINDU,2JIHVAMULIYA,2NUKTA,2SIDDHAM",
   "2UPADHMANIYA,2VIRAMA,2VISARGA,1SUTRA MARK,1VOWEL MODIFIER MARK,2SIGN AA,3AI,3AU,3E,3I,3II,3O",
   "3PRISHTHAMATRA E,3U,3UU,3VOCALIC L,4LL,4R,4RR,0SHARK,0SHAVED ICE,0SHAVIAN LETTER ADO,2AGE,2AH",
   "2AIR,2ARE,2ARRAY,2ASH,2AWE,2BIB,2CHURCH,2DEAD,2EAR,2EAT,2EGG,2ERR,2FEE,2GAG,2HA-HA,2HUNG,2IAN",
   "2ICE,2IF,2JUDGE,2KICK,2LOLL,2MEASURE,2MIME,2NUN,2OAK,2OIL,2ON,2OOZE,2OR,2OUT,2PEEP,2ROAR,2SO",
   "2SURE,2THEY,2THIGH,2TOT,2UP,2VOW,2WOE,2WOOL,2YEA,2YEW,2ZOO,0SHEEP,0SHIELD,0SHIFT IN,1OUT",
   "0SHINTO SHRINE,0SHIP,0SHOCKED FACE WITH EXPLODING HEAD,0SHOOTING STAR,0SHOPPING BAGS,1TROLLEY",
   "0SHORT BACKSLANTED SOUTH ARROW,1BENT ARROW POINTING DOWNWARDS THEN NORTH EAST,1DOWN TACK",
   "3WITH OVERBAR,1LEFT TACK,1RIGHTWARDS ARROW ABOVE LEFTWARDS ARROW,1SLANTED NORTH ARROW,1UP TACK",
   "3ABOVE SHORT DOWN TACK,3WITH UNDERBAR,0SHORTCAKE,0SHORTHAND FORMAT CONTINUING OVERLAP",
   "2DOWN STEP,2LETTER OVERLAP,2UP STEP,0SHORTS,0SHOULDERED OPEN BOX,0SHOWER,0SHRIMP,0SHRUG",
   "0SHUFFLE PRODUCT,0SHY,0SI,0SIDDHAM DANDA,1DOUBLE DANDA,1END OF TEXT MARK,1LETTER A,2AA,2AI",
   "2ALTERNATE U,2AU,2BA,2BHA,2CA,2CHA,2DA,2DDA,2DDHA,2DHA,2E,2GA,2GHA,2HA,2I,2II,2JA,2JHA,2KA",
   "2KHA,2LA,2MA,2NA,2NGA,2NNA,2NYA,2O,2PA,2PHA,2RA,2SA,2SHA,2SSA,2TA,2THA",
   "2THREE-CIRCLE ALTERNATE I,2TTA,2TTHA,2TWO-CIRCLE ALTERNATE I,4II,2U,2UU,2VA,2VOCALIC L,3LL,3R",
   "3RR,2YA,1REPETITION MARK-1,2MARK-2,2MARK-3,1SECTION MARK DOUBLE RING,5WITH RAYS",
   "3WITH CIRCLES AND FOUR ENCLOSURES,6RAYS,6TWO ENCLOSURES,4DOUBLE CRESCENTS,4QUADRUPLE CRESCENTS",
   "4RAYS AND DOTTED CRESCENTS,7DOUBLE CRESCENTS,7TRIPLE CRESCENTS,4SEPTUPLE CRESCENTS",
   "4TRIDENT AND DOTTED CRESCENTS,6U-SHAPED ORNAMENTS,4TRIPLE CRESCENTS,1SEPARATOR BAR,2DOT",
   "1SIGN ANUSVARA,2CANDRABINDU,2NUKTA,2SIDDHAM,2VIRAMA,2VISARGA,1VOWEL SIGN AA,3AI,3ALTERNATE U",
   "4UU,3AU,3E,3I,3II,3O,3U,3UU,3VOCALIC R,4RR,0SIDEWAYS BLACK DOWN POINTING INDEX",
   "2LEFT POINTING INDEX,2RIGHT POINTING INDEX,2UP POINTING INDEX,1WHITE DOWN POINTING INDEX",
   "2LEFT POINTING INDEX,2RIGHT POINTING INDEX,2UP POINTING INDEX,0SIGN OF THE HORNS",
   "0SIGNWRITING AIR BLOW SMALL ROTATIONS,2BLOWING OUT,2SUCK SMALL ROTATIONS,2SUCKING IN",
   "1BREATH EXHALE,2INHALE,1BRUSH BETWEEN,2MULTIPLE,2SINGLE,1CHEEKS NEUTRAL,2PUFFED,2SUCKED,1COLON",
   "1COMMA,1DREAMY EYEBROWS DOWN NEUTRAL,3NEUTRAL DOWN,4UP,3UP NEUTRAL,1DYNAMIC ARROWHEAD LARGE",
   "3SMALL,2EVERY OTHER TIME,2FAST,2GRADUAL,2RELAXED,2SIMULTANEOUS,3ALTERNATING,2SLOW,2TENSE,1EARS",
   "1EXCITEMENT,1EYE BLINK MULTIPLE,3SINGLE,2WINK,1EYEBROWS STRAIGHT DOWN,3NEUTRAL,3UP",
   "1EYEGAZE-FLOORPLANE CURVED,2STRAIGHT,3ALTERNATING,3DOUBLE,1EYEGAZE-WALLPLANE CIRCLING,2CURVED",
   "2STRAIGHT,3ALTERNATING,3DOUBLE,1EYELASHES DOWN,2FLUTTERING,2UP,1EYES CLOSED,2HALF CLOSED,3OPEN",
   "2OPEN,2SQUEEZED,2WIDE OPEN,2WIDENING MOVEMENT,1FACE DIRECTION POSITION NOSE FORWARD TILTING",
   "5UP OR DOWN,8TILTING,1FILL MODIFIER-2,2MODIFIER-3,2MODIFIER-4,2MODIFIER-5,2MODIFIER-6,1FINGER",
   "1FLICK LARGE MULTIPLE,3SINGLE,2SEQUENTIAL,2SMALL MULTIPLE,3SINGLE",
   "1FLOORPLANE SHOULDER HIP MOVE,1FOREHEAD CONTACT,2NEUTRAL,2WRINKLED,1FULL STOP,1GRASP BETWEEN",
   "2MULTIPLE,2SINGLE,1HAIR,1HAND-ANGLE,2INDEX,3MIDDLE LITTLE,4RING,3RING LITTLE,5OUT,3THUMB,4IN",
   "4OUT,2LITTLE INDEX,4THUMB INDEX THUMB,7OUT,3UP,2MIDDLE RING LITTLE,5IN,5OUT",
   "2RING DOWN MIDDLE THUMB INDEX CROSS,3LITTLE,1HAND-CIRCLE,2INDEX,3BENT,3HINGE,3MIDDLE",
   "4CROSS LITTLE,4CROSSED,4LITTLE,4RING,4THUMB,3RING LITTLE,2LITTLE INDEX,3UP,2MIDDLE RING LITTLE",
   "5BENT,3UP,2RING LITTLE,1HAND-CLAW,2FOUR FINGERS CONJOINED,2INDEX THUMB CURVE THUMB INSIDE",
   "2MIDDLE RING LITTLE CONJOINED,6SIDE,2NO THUMB,2THUMB FORWARD,3SIDE,1HAND-CUP",
   "2FIVE FINGERS SPREAD,5OPEN,2INDEX,3RING LITTLE,3THUMB,4OPEN,2MIDDLE RING LITTLE,2NO THUMB",
   "2OPEN,3NO THUMB,3THUMB FORWARD,4SIDE,2THUMB FORWARD,3SIDE,1HAND-CURLICUE,2INDEX RING LITTLE ON",
   "2MIDDLE RING LITTLE ON,2OPEN,1HAND-FIST,2FOUR FINGERS CONJOINED BENT,2HEEL,2INDEX,3BENT",
   "4OVER MIDDLE,3CUPPED,3HINGED,4LOW,4MIDDLE UP,6THUMB SIDE,3MIDDLE,4BENT,5THUMB STRAIGHT",
   "4CONJOINED,5CUPPED,6THUMB FORWARD,5HINGED,6THUMB SIDE,5INDEX BENT,5MIDDLE BENT,5THUMB FORWARD",
   "6SIDE,7BENT,7CONJOINED,4CROSS LITTLE,4CROSSED,5THUMB SIDE,4HINGED,5SPREAD THUMB SIDE,4LITTLE",
   "4RAISED KNUCKLES,4RING,5BENT,5CONJOINED,4STRAIGHT THUMB BENT,4THUMB,5ANGLED,6OUT,5BENT",
   "5CIRCLED,5CONJOINED HINGED,5CUPPED,5HINGED,5HOOKED,4UP SPREAD THUMB FORWARD,3RAISED KNUCKLE",
   "3RING LITTLE,3THUMB ANGLED IN MIDDLE UP,5OUT MIDDLE UP,4CIRCLE,4CIRCLED MIDDLE UP",
   "4CUPPED MIDDLE UP,4CURLICUE,4CURVE THUMB INSIDE,6UNDER,4FORWARD INDEX BENT,6STRAIGHT,4HOOK",
   "4HOOKED MIDDLE HINGED,6UP,4SIDE,5BOTH BENT,5INDEX BENT,6HINGE,5THUMB BENT,6CONJOINED,6DIAGONAL",
   "3UP MIDDLE HINGED,6THUMB CONJOINED,7SIDE,2LITTLE BENT,3DOWN,4OTHERS CIRCLED,4RIPPLE CURVED",
   "5STRAIGHT,3INDEX,4THUMB,3RAISED KNUCKLE,3THUMB,3TOUCHES THUMB,3UP,2MIDDLE BENT OVER INDEX",
   "3DOWN,3LITTLE,3RAISED KNUCKLE,3RING LITTLE,3THUMB ANGLED INDEX UP,5OUT INDEX CROSSED,7UP",
   "4CIRCLED INDEX HINGED,6UP,4CUPPED INDEX UP,4HOOKED INDEX UP,4LITTLE,3UP,4THUMB SIDE,2RING DOWN",
   "3INDEX,3LITTLE,3MIDDLE,4CONJOINED,4RAISED KNUCKLES,3RAISED KNUCKLE,3THUMB,3UP,2THUMB",
   "3BETWEEN INDEX MIDDLE,6STRAIGHT,4MIDDLE RING,4RING LITTLE,3FORWARD,3HEEL",
   "3OVER FOUR RAISED KNUCKLES,4TWO FINGERS,3SIDE BENT,4CONJOINED,4DIAGONAL,3UNDER FOUR FINGERS",
   "4INDEX BENT,4LITTLE UP,4THREE FINGERS,4TWO FINGERS,1HAND-FLAT,2BETWEEN PALM FACINGS",
   "2FIVE FINGERS SPREAD,5BENT,5FOUR BENT,5HINGED,6NO THUMB,6THUMB SIDE,5THUMB FORWARD",
   "2FOUR FINGERS,4BENT,4CONJOINED,5SPLIT,4HINGED,2HEEL,3FIVE FINGERS SPREAD,6BENT,6FOUR BENT",
   "3THUMB SIDE,2SPLIT CENTRE,4THUMB SIDE,6BENT,3INDEX THUMB SIDE,3LITTLE,2THUMB BENT,3FORWARD",
   "3SIDE,1HAND-HINGE,2FIVE FINGERS SPREAD OPEN,2FOUR FINGERS CONJOINED,2INDEX,3HINGED",
   "3MIDDLE LITTLE,4RING,5CONJOINED,3RING LITTLE,3THUMB,4LARGE,4OPEN,4SIDE,4SMALL,2LITTLE,3INDEX",
   "4THUMB,3THUMB,2MIDDLE,3RING LITTLE,2NO THUMB,2OPEN,3NO THUMB,3THUMB FORWARD,4SIDE,2RING",
   "3DOWN INDEX THUMB HOOK MIDDLE,2SMALL,2THUMB BETWEEN MIDDLE RING,3SIDE,4TOUCHING INDEX",
   "1HAND-HOOK,2CURLICUE,2INDEX RING LITTLE IN,5OUT,5UNDER,2MIDDLE RING LITTLE CONJOINED,6IN,6OUT",
   "3THUMB,2RING THUMB,1HAND-OVAL,2FIVE FINGERS SPREAD,2INDEX,2LITTLE UP,2NO THUMB,2RING LITTLE",
   "2THUMB FORWARD,3SIDE,1HEAD,2MOVEMENT CIRCLE,2MOVEMENT-FLOORPLANE CURVE,3STRAIGHT",
   "2MOVEMENT-WALLPLANE CURVE,3STRAIGHT,3TILT,2RIM,1LIMB COMBINATION,2LENGTH-1,2LENGTH-2,2LENGTH-3",
   "2LENGTH-4,2LENGTH-5,2LENGTH-6,2LENGTH-7,1LIP LOWER OVER UPPER,2UPPER OVER LOWER",
   "1LIPS PRESSED TOGETHER,1LOCATION DEPTH,2HEAD NECK,2HEIGHT,2LIMBS DIGITS,2TORSO,2WIDTH",
   "1LOCATION-FLOORPLANE SPACE,1LOCATION-WALLPLANE SPACE,1MOUTH CLOSED CONTACT,3FORWARD,3NEUTRAL",
   "2CORNERS,2FROWN,3OPEN,3WRINKLED,2KISS,3FORWARD,3WRINKLED,2OPEN CIRCLE,3FORWARD,3OVAL,4WRINKLED",
   "4YAWN,3RECTANGLE,4WRINKLED,4YAWN,3WRINKLED,2SMILE,3OPEN,3WRINKLED,2TENSE,3FORWARD,3SUCKED",
   "2WRINKLES DOUBLE,3SINGLE,1MOVEMENT-DIAGONAL AWAY LARGE,3LARGEST,3MEDIUM,3SMALL",
   "2BETWEEN AWAY LARGE,4LARGEST,4MEDIUM,4SMALL,3TOWARDS LARGE,4LARGEST,4MEDIUM,4SMALL",
   "2TOWARDS LARGE,3LARGEST,3MEDIUM,3SMALL",
   "1MOVEMENT-FLOORPLANE ARM CIRCLE HITTING WALL LARGE DOUBLE,7SINGLE,6MEDIUM DOUBLE,7SINGLE",
   "6SMALL DOUBLE,7SINGLE,2BEND,2BOX LARGE,3MEDIUM,3SMALL,2CHECK,2CORNER LARGE,3MEDIUM,3SMALL",
   "2CROSS,2CURVE COMBINED,3HITTING CEILING LARGE,5SMALL,4FLOOR LARGE,5SMALL,3LARGE,3LARGEST",
   "3MEDIUM,3SMALL,2DOUBLE ALTERNATING,4WRIST FLEX,3STRAIGHT,3WRIST FLEX",
   "2FINGER CIRCLES HITTING WALL DOUBLE,6SINGLE,3CONTACT,2HUMP HITTING CEILING LARGE DOUBLE",
   "6TRIPLE,5SMALL DOUBLE,6TRIPLE,4FLOOR LARGE DOUBLE,5SMALL DOUBLE,5TRIPLE LARGE TRIPLE",
   "6SMALL TRIPLE,3SMALL,2JAW,2LOOP HITTING CEILING LARGE DOUBLE,6SINGLE,5SMALL DOUBLE,6SINGLE",
   "4FLOOR LARGE DOUBLE,6SINGLE,5SMALL DOUBLE,6SINGLE,3SMALL,2PEAKS LARGE,3MEDIUM,3SMALL",
   "2SHAKING PARALLEL,2SINGLE STRAIGHT LARGE,4LARGEST,4MEDIUM,4SMALL,3WRIST FLEX",
   "2TRIPLE ALTERNATING MOVEMENT,4WRIST FLEX,3STRAIGHT MOVEMENT,3WRIST FLEX",
   "2WAVE HITTING CEILING LARGE,5SMALL,4FLOOR LARGE,5SMALL,3LARGE,3SMALL,3SNAKE",
   "2WRIST CIRCLE HITTING WALL DOUBLE,6SINGLE,2ZIGZAG LARGE,3MEDIUM,3SMALL",
   "1MOVEMENT-HINGE DOWN SEQUENTIAL,2SIDE TO SIDE SCISSORS,2UP DOWN ALTERNATING LARGE,5SMALL",
   "4LARGE,4SMALL,3SEQUENTIAL,1MOVEMENT-WALLPLANE ARM CIRCLE MEDIUM DOUBLE,5SINGLE,4SMALL DOUBLE",
   "5SINGLE,2BEND LARGE,3MEDIUM,3SMALL,2BOX LARGE,3MEDIUM,3SMALL,2CHECK LARGE,3MEDIUM,3SMALL",
   "2CORNER LARGE,3MEDIUM,3ROTATION,3SMALL,2CROSS,2CURVE HALF-CIRCLE LARGE,4LARGEST,4MEDIUM,4SMALL",
   "3HITTING CHEST,4FRONT WALL,3QUARTER LARGE,4LARGEST,4MEDIUM,4SMALL,3THEN STRAIGHT",
   "3THREE-QUARTER CIRCLE MEDIUM,5SMALL,2CURVED CROSS MEDIUM,4SMALL,2DOUBLE ALTERNATING",
   "4WRIST FLEX,3STRAIGHT,3WRIST FLEX,2FINGER CIRCLES DOUBLE,4SINGLE,3CONTACT,2HUMP HITTING CHEST",
   "4FRONT WALL,3LARGE,3MEDIUM,3SMALL,2JAW,2LOOP HITTING CHEST,4FRONT WALL,3LARGE,3MEDIUM,3SMALL",
   "4DOUBLE,2PEAKS LARGE,3MEDIUM,3SMALL,2SHAKING,2SINGLE STRAIGHT LARGE,4LARGEST,4MEDIUM,4SMALL",
   "3WRIST FLEX,2TRIPLE ALTERNATING,4WRIST FLEX,3STRAIGHT MOVEMENT,3WRIST FLEX",
   "2WAVE CURVE DOUBLE LARGE,5MEDIUM,5SMALL,4TRIPLE LARGE,5MEDIUM,5SMALL,3DIAGONAL PATH LARGE",
   "5MEDIUM,5SMALL,3HITTING CHEST,4FRONT WALL,2WRIST CIRCLE FRONT DOUBLE,5SINGLE,2ZIGZAG LARGE",
   "3MEDIUM,3SMALL,1NECK,1NOSE CONTACT,2NEUTRAL,2WIGGLES,2WRINKLES,1PARENTHESIS",
   "1ROTATION MODIFIER-10,2MODIFIER-11,2MODIFIER-12,2MODIFIER-13,2MODIFIER-14,2MODIFIER-15",
   "2MODIFIER-16,2MODIFIER-2,2MODIFIER-3,2MODIFIER-4,2MODIFIER-5,2MODIFIER-6,2MODIFIER-7",
   "2MODIFIER-8,2MODIFIER-9,1ROTATION-FLOORPLANE ALTERNATING,3HITTING CEILING,4FLOOR,2DOUBLE",
   "3HITTING CEILING,4FLOOR,2SINGLE,3HITTING CEILING,4FLOOR,1ROTATION-WALLPLANE ALTERNATE",
   "2ALTERNATING HITTING CHEST,4FRONT WALL,2DOUBLE,3HITTING CHEST,4FRONT WALL,2SINGLE",
   "3HITTING CHEST,4FRONT WALL,1RUB BETWEEN,2MULTIPLE,2SINGLE,1SEMICOLON,1SHOULDER HIP POSITIONS",
   "3SPINE,2TILTING FROM WAIST,1SQUEEZE FLICK ALTERNATING,2LARGE MULTIPLE,3SINGLE,2SEQUENTIAL",
   "2SMALL MULTIPLE,3SINGLE,1STRIKE BETWEEN,2MULTIPLE,2SINGLE,1SURFACE BETWEEN,2SYMBOLS,1TEETH",
   "2BITE LIPS,2MOVEMENT,2ON LIPS,4MOVEMENT,3TONGUE,4MOVEMENT,1TENSE CHEEKS HIGH,3LOW,3MIDDLE",
   "1TONGUE CENTRE INSIDE MOUTH,3STICKING OUT,2INSIDE MOUTH RELAXED,2LICKING LIPS",
   "2MOVES AGAINST CHEEK,2STICKING OUT FAR,2TIP BETWEEN LIPS,3TOUCHING INSIDE MOUTH",
   "1TORSO-FLOORPLANE TWISTING,1TORSO-WALLPLANE CURVED BEND,2STRAIGHT STRETCH,1TOUCH BETWEEN",
   "2MULTIPLE,2SINGLE,1TRAVEL-FLOORPLANE ROTATION-FLOORPLANE ALTERNATING,3DOUBLE,3SINGLE",
   "2ROTATION-WALLPLANE ALTERNATING,3DOUBLE,3SINGLE,2SHAKING,1TRAVEL-WALLPLANE ARM SPIRAL DOUBLE",
   "4SINGLE,4TRIPLE,2ROTATION-FLOORPLANE ALTERNATING,3DOUBLE,3SINGLE",
   "2ROTATION-WALLPLANE ALTERNATING,3DOUBLE,3SINGLE,2SHAKING,1UPPER BODY TILTING FROM HIP JOINTS",
   "1WALLPLANE SHOULDER HIP MOVE,0SILHOUETTE OF JAPAN",
   "0SIMILAR ABOVE GREATER-THAN ABOVE EQUALS SIGN,2LESS-THAN ABOVE EQUALS SIGN,1MINUS SIMILAR",
   "1OR GREATER-THAN,2LESS-THAN,0SINE WAVE,0SINGLE CHARACTER INTRODUCER",
   "1GRAPHIC CHARACTER INTRODUCER,1HIGH-REVERSED-9 QUOTATION MARK",
   "1LEFT-POINTING ANGLE QUOTATION MARK,1LOW-9 QUOTATION MARK,1RIGHT-POINTING ANGLE QUOTATION MARK",
   "1SHIFT THREE,2TWO,0SINGLE-SHIFT-2,0SINGLE-SHIFT-3,0SINHALA ARCHAIC DIGIT EIGHT,3FIVE,3FOUR",
   "3NINE,3ONE,3SEVEN,3SIX,3THREE,3TWO,2NUMBER EIGHTY,3FIFTY,3FORTY,3NINETY,3ONE HUNDRED,4THOUSAND",
   "3SEVENTY,3SIXTY,3TEN,3THIRTY,3TWENTY,1LETTER AAYANNA,2AEEYANNA,2AEYANNA,2AIYANNA",
   "2ALPAPRAANA BAYANNA,3CAYANNA,3DAYANNA,3DDAYANNA,3GAYANNA,3JAYANNA,3KAYANNA,3PAYANNA,3TAYANNA",
   "3TTAYANNA,2AMBA BAYANNA,2AUYANNA,2AYANNA,2DANTAJA LAYANNA,3NAYANNA,3SAYANNA,2EEYANNA,2EYANNA",
   "2FAYANNA,2HAYANNA,2IIYANNA,2ILUUYANNA,2ILUYANNA,2IRUUYANNA,2IRUYANNA,2IYANNA",
   "2KANTAJA NAASIKYAYA,2MAHAAPRAANA BAYANNA,3CAYANNA,3DAYANNA,3DDAYANNA,3GAYANNA,3JAYANNA",
   "3KAYANNA,3PAYANNA,3TAYANNA,3TTAYANNA,2MAYANNA,2MUURDHAJA LAYANNA,3NAYANNA,3SAYANNA,2OOYANNA",
   "2OYANNA,2RAYANNA,2SANYAKA DAYANNA,3DDAYANNA,3GAYANNA,3JAYANNA,2TAALUJA NAASIKYAYA",
   "3SANYOOGA NAAKSIKYAYA,3SAYANNA,2UUYANNA,2UYANNA,2VAYANNA,2YAYANNA,1LITH DIGIT EIGHT,3FIVE",
   "3FOUR,3NINE,3ONE,3SEVEN,3SIX,3THREE,3TWO,3ZERO,1PUNCTUATION KUNDDALIYA,1SIGN AL-LAKUNA",
   "2ANUSVARAYA,2CANDRABINDU,2VISARGAYA,1VOWEL SIGN AELA-PILLA,3DIGA AEDA-PILLA,4GAETTA-PILLA",
   "4GAYANUKITTA,4IS-PILLA,4KOMBUVA,4PAA-PILLA,3GAETTA-PILLA,3GAYANUKITTA,3KETTI AEDA-PILLA",
   "4IS-PILLA,4PAA-PILLA,3KOMBU DEKA,3KOMBUVA,4HAA AELA-PILLA,5DIGA AELA-PILLA,5GAYANUKITTA",
   "0SIX PETALLED BLACK AND WHITE FLORETTE,1POINTED BLACK STAR,2PINWHEEL STAR",
   "2STAR WITH MIDDLE DOT,0SIX-PER-EM SPACE,0SIXTEEN POINTED ASTERISK,0SKATEBOARD",
   "0SKI AND SKI BOOT,0SKIER,0SKULL,1AND CROSSBONES,0SKUNK,0SLANTED EQUAL TO OR GREATER-THAN",
   "5WITH DOT INSIDE,4LESS-THAN,5WITH DOT INSIDE,1NORTH ARROW WITH HOOKED HEAD,4HORIZONTAL TAIL",
   "0SLAVONIC ASTERISK,0SLED,0SLEEPING ACCOMMODATION,1FACE,1SYMBOL,0SLEEPY FACE,0SLEUTH OR SPY",
   "0SLICE OF PIZZA,0SLIGHTLY FROWNING FACE,1SMILING FACE,0SLOPE,0SLOPING LARGE AND,2OR",
   "0SLOT MACHINE,0SLOTH,0SMALL AIRPLANE,1AMPERSAND,1ASTERISK,1BLUE DIAMOND,1COLON,1COMMA",
   "1COMMERCIAL AT,1CONTAINS AS MEMBER,2WITH OVERBAR,3VERTICAL BAR AT END OF HORIZONTAL STROKE",
   "1DOLLAR SIGN,1ELEMENT OF,3WITH OVERBAR,4VERTICAL BAR AT END OF HORIZONTAL STROKE,1EM DASH",
   "1EQUALS SIGN,1EXCLAMATION MARK,1FULL STOP,1GREATER-THAN SIGN,1HYPHEN-MINUS,1IDEOGRAPHIC COMMA",
   "1LEFT CURLY BRACKET,2PARENTHESIS,2TORTOISE SHELL BRACKET,1LESS-THAN SIGN,1NUMBER SIGN",
   "1ORANGE DIAMOND,1PERCENT SIGN,1PLUS SIGN,1QUESTION MARK,1REVERSE SOLIDUS,1RIGHT CURLY BRACKET",
   "2PARENTHESIS,2TORTOISE SHELL BRACKET,1ROMAN NUMERAL EIGHT,3ELEVEN,3FIFTY,3FIVE,4HUNDRED,3FOUR",
   "3NINE,3ONE,4HUNDRED,4THOUSAND,3SEVEN,3SIX,3TEN,3THREE,3TWELVE,3TWO,1SEMICOLON,1TILDE",
   "1TWO DOTS OVER ONE DOT PUNCTUATION,1VEE WITH UNDERBAR,0SMALLER THAN,2OR EQUAL TO",
   "0SMASH PRODUCT,0SMILE,0SMILING CAT FACE WITH HEART-SHAPED EYES,4OPEN MOUTH,1FACE WITH HALO",
   "3HEART-SHAPED EYES,3HORNS,3OPEN MOUTH,5AND COLD SWEAT,6SMILING EYES,6TIGHTLY-CLOSED EYES",
   "3SMILING EYES,5AND HAND COVERING MOUTH,6THREE HEARTS,3SUNGLASSES,3TEAR,0SMIRKING FACE",
   "0SMOKING SYMBOL,0SNAIL,0SNAKE,0SNEEZING FACE,0SNOW CAPPED MOUNTAIN,0SNOWBOARDER,0SNOWFLAKE",
   "0SNOWMAN,1WITHOUT SNOW,0SO,0SOCCER BALL,0SOCKS,0SOFT HYPHEN,1ICE CREAM,1SHELL FLOPPY DISK",
   "0SOFTBALL,0SOFTWARE-FUNCTION SYMBOL,0SOGDIAN COMBINING CURVE ABOVE,3BELOW,2DOT ABOVE,3BELOW",
   "2HOOK ABOVE,3BELOW,2LONG HOOK BELOW,2RESH BELOW,2STROKE BELOW,2TWO DOTS ABOVE,4BELOW",
   "1INDEPENDENT SHIN,1LETTER ALEPH,2AYIN,2BETH,2FETH,2GIMEL,2HE,2HETH,2KAPH,2LAMEDH,2LESH,2MEM",
   "2NUN,2PE,2RESH-AYIN,2SADHE,2SAMEKH,2SHIN,2TAW,2WAW,2YODH,2ZAYIN,1NUMBER ONE,3HUNDRED,2TEN",
   "2TWENTY,1PUNCTUATION CIRCLE WITH DOT,2HALF CIRCLE WITH DOT,2TWO CIRCLES WITH DOTS",
   "3VERTICAL BARS,5WITH DOTS,0SOH,0SOLID QUILT SQUARE ORNAMENT,4IN BLACK SQUARE,0SOLIDUS",
   "1WITH OVERBAR,0SOM SIGN,0SOON WITH RIGHTWARDS ARROW ABOVE,0SORA SOMPENG DIGIT EIGHT,3FIVE",
   "3FOUR,3NINE,3ONE,3SEVEN,3SIX,3THREE,3TWO,3ZERO,2LETTER AH,3BAH,3CAH,3DAH,3EEH,3EH,3GAH,3HAH",
   "3IH,3JAH,3KAH,3LAH,3MAE,3MAH,3NAH,3NGAH,3NYAH,3OH,3PAH,3RAH,3SAH,3TAH,3UH,3VAH,3YAH,0SOS",
   "0SOUND RECORDING COPYRIGHT,0SOUTH EAST ARROW,3AND SOUTH WEST ARROW,3CROSSING NORTH EAST ARROW",
   "3TO CORNER,3WITH HOOK,2BLACK ARROW,2DOUBLE ARROW,2POINTING BUD,3LEAF,3VINE LEAF",
   "2SANS-SERIF ARROW,2TRIANGLE-HEADED ARROW,4TO BAR,2WHITE ARROW,1WEST ARROW",
   "3AND NORTH WEST ARROW,3WITH HOOK,2BLACK ARROW,2DOUBLE ARROW,2POINTING BUD,3LEAF,3VINE LEAF",
   "2SANS-SERIF ARROW,2TRIANGLE-HEADED ARROW,4TO BAR,2WHITE ARROW",
   "0SOYOMBO CLUSTER-INITIAL LETTER LA,3RA,3SA,3SHA,1FINAL CONSONANT SIGN -A,4B,4D,4G,4K,4L,4M,4N",
   "4NG,4R,4S,4SH,1GEMINATION MARK,1HEAD MARK WITH MOON AND SUN,7AND FLAME,8TRIPLE FLAME",
   "1LETTER -A,2A,2BA,2BHA,2CA,2CHA,2DA,2DDA,2DDHA,2DHA,2DZA,2GA,2GHA,2HA,2JA,2JHA,2KA,2KHA,2KSSA",
   "2LA,2MA,2NA,2NGA,2NNA,2NYA,2PA,2PHA,2RA,2SA,2SHA,2SSA,2TA,2THA,2TSA,2TSHA,2TTA,2TTHA,2VA,2YA",
   "2ZA,2ZHA,1MARK DOUBLE SHAD,2PLUTA,2SHAD,2TSHEG,1SIGN ANUSVARA,2JIHVAMULIYA,2UPADHMANIYA",
   "2VISARGA,1SUBJOINER,1TERMINAL MARK-1,2MARK-2,1VOWEL LENGTH MARK,2SIGN AI,3AU,3E,3I,3O,3OE,3U",
   "3UE,3VOCALIC L,4R,0SP,0SPA,0SPACE,0SPAGHETTI,0SPARKLE,0SPARKLES,0SPARKLING HEART",
   "0SPEAK-NO-EVIL MONKEY,0SPEAKER,1WITH CANCELLATION STROKE,2ONE SOUND WAVE,2THREE SOUND WAVES",
   "0SPEAKING HEAD IN SILHOUETTE,0SPEECH BALLOON,0SPEEDBOAT,0SPESMILO SIGN,0SPHERICAL ANGLE",
   "2OPENING LEFT,3UP,0SPIDER,1WEB,0SPIRAL CALENDAR PAD,1NOTE PAD,1SHELL,0SPLASHING SWEAT SYMBOL",
   "0SPONGE,0SPOOL OF THREAD,0SPOON,0SPORTS MEDAL,0SPOUTING WHALE,0SQUARE A OVER M,1AARU,1AM",
   "1ANPEA,1APAATO,1ARUHUA,1AU,1BAARERU,1BAR,1BEETA,1BIRU,1BORUTO,1BQ,1BUSSYERU,1C OVER KG,1CAL",
   "1CAP,1CC,1CD,1CM,2CUBED,2SQUARED,1CO,1CORPORATION,1CUP,1DA,1DAASU,1DB,1DESI,1DJ,1DL,1DM,2CUBED",
   "2SQUARED,1DORU,1EEKAA,1ERA NAME HEISEI,3MEIZI,3REIWA,3SYOUWA,3TAISYOU,1ERG,1ESUKUUDO,1EV,1FM",
   "1FOOT,1FOUR CORNERS,1GAL,1GANMA,1GARON,1GB,1GHZ,1GIGA,1GINII,1GIRUDAA,1GPA,1GURAMU,1GURAMUTON",
   "1GY,1HA,1HAITU,1HEKUTAARU,1HERUTU,1HG,1HIRAGANA HOKA,1HON,1HOON,1HOORU,1HP,1HPA,1HUARADDO",
   "1HUIITO,1HURAN,1HZ,1IMAGE OF,3OR EQUAL TO,4NOT EQUAL TO,1IN,1ININGU,1INTI,1IU,1K OHM,1KA",
   "1KAIRI,1KARATTO,1KARORII,1KB,1KCAL,1KEESU,1KG,1KHZ,1KIRO,1KIROGURAMU,1KIROMEETORU,1KIROWATTO",
   "1KK,1KL,1KM,2CAPITAL,2CUBED,2SQUARED,1KOOPO,1KORUNA,1KPA,1KT,1KUROONE,1KURUZEIRO,1KV,1KW",
   "1KYURII,1LEFT OPEN BOX OPERATOR,1LM,1LN,1LOG,1LOZENGE,1LX,1M CUBED,2OHM,2OVER S,4SQUARED",
   "2SQUARED,1MA,1MAHHA,1MAIKURO,1MAIRU,1MANSYON,1MARUKU,1MB,2SMALL,1MEETORU,1MEGA,1MEGATON,1MG",
   "1MHZ,1MIKURON,1MIL,1MIRI,1MIRIBAARU,1ML,1MM,2CUBED,2SQUARED,1MOL,1MPA,1MS,1MU A,2F,2G,2L,2M,2S",
   "2V,2W,1MV,2MEGA,1MW,2MEGA,1NA,1NANO,1NF,1NM,1NOTTO,1NS,1NV,1NW,1ONSU,1OOMU,1ORIGINAL OF",
   "3OR EQUAL TO,4NOT EQUAL TO,1OV,1PA,2AMPS,1PAASENTO,1PAATU,1PC,1PEEZI,1PENIHI,1PENSU,1PESO,1PF",
   "1PH,1PIASUTORU,1PIKO,1PIKURU,1PM,1POINTO,1PONDO,1POSITION INDICATOR,1PPM,1PR,1PS,1PV,1PW,1RAD",
   "2OVER S,4SQUARED,1REMU,1RENTOGEN,1RIGHT OPEN BOX OPERATOR,1RIRA,1RITTORU,1ROOT,1RUPII,1RUUBURU",
   "1SAIKURU,1SANTIIMU,1SENTI,1SENTO,1SIRINGU,1SR,1SV,1TARGET,1THZ,1TON,1UON,1V OVER M,1WATTO,1WB",
   "1WITH BOTTOM HALF BLACK,2CONTOURED OUTLINE,2DIAGONAL CROSSHATCH FILL,2HORIZONTAL FILL",
   "2LEFT HALF BLACK,2LOWER LEFT DIAGONAL HALF BLACK,3RIGHT DIAGONAL HALF BLACK",
   "2ORTHOGONAL CROSSHATCH FILL,2RIGHT HALF BLACK,2TOP HALF BLACK,2UPPER LEFT DIAGONAL HALF BLACK",
   "4TO LOWER RIGHT FILL,3RIGHT DIAGONAL HALF BLACK,4TO LOWER LEFT FILL,2VERTICAL FILL,1YAADO",
   "1YAARU,1YUAN,0SQUARED ASTERISK,1CJK UNIFIED IDEOGRAPH-4E00,3IDEOGRAPH-4E09,3IDEOGRAPH-4E2D",
   "3IDEOGRAPH-4E8C,3IDEOGRAPH-4EA4,3IDEOGRAPH-518D,3IDEOGRAPH-521D,3IDEOGRAPH-524D",
   "3IDEOGRAPH-5272,3IDEOGRAPH-53CC,3IDEOGRAPH-53F3,3IDEOGRAPH-5408,3IDEOGRAPH-5439",
   "3IDEOGRAPH-55B6,3IDEOGRAPH-58F0,3IDEOGRAPH-591A,3IDEOGRAPH-5929,3IDEOGRAPH-5B57",
   "3IDEOGRAPH-5DE6,3IDEOGRAPH-5F8C,3IDEOGRAPH-624B,3IDEOGRAPH-6253,3IDEOGRAPH-6295",
   "3IDEOGRAPH-6307,3IDEOGRAPH-6355,3IDEOGRAPH-6599,3IDEOGRAPH-65B0,3IDEOGRAPH-6620",
   "3IDEOGRAPH-6708,3IDEOGRAPH-6709,3IDEOGRAPH-6E80,3IDEOGRAPH-6F14,3IDEOGRAPH-7121",
   "3IDEOGRAPH-751F,3IDEOGRAPH-7533,3IDEOGRAPH-7981,3IDEOGRAPH-7A7A,3IDEOGRAPH-7D42",
   "3IDEOGRAPH-89E3,3IDEOGRAPH-8CA9,3IDEOGRAPH-8D70,3IDEOGRAPH-904A,3IDEOGRAPH-914D,1CL,1COOL",
   "1DOT OPERATOR,1EIGHT K,1FALLING DIAGONAL SLASH,1FIVE POINT ONE,1FOUR DOT PUNCTUATION,2K,1FREE",
   "1HC,1HDR,1HI-RES,1HV,1ID,1KATAKANA DE,2KOKO,2SA,1KEY,1LATIN CAPITAL LETTER A,4B,4C,4D,4E,4F,4G",
   "4H,4I,4J,4K,4L,4M,4N,4O,4P,4Q,4R,4S,4T,4U,4V,4W,4X,4Y,4Z,2SMALL LETTER D,1LOGICAL AND,2OR",
   "1LOSSLESS,1MINUS,1MV,1NEW,1NG,1OK,1ONE HUNDRED TWENTY P,1PLUS,1PPV,1RISING DIAGONAL SLASH",
   "1SALTIRE,1SD,1SECOND SCREEN,1SEVEN POINT ONE,1SHV,1SIXTY P,1SMALL CIRCLE,1SOS,1SQUARE,1SS",
   "1THREE D,1TIMES,1TWENTY-TWO POINT TWO,1TWO K,1UHD,1UP WITH EXCLAMATION MARK,1VOD,1VS,1WC",
   "0SQUAT BLACK RIGHTWARDS ARROW,0SQUID,0SS2,0SS3,0SSA,0ST,0STADIUM,0STAFF OF AESCULAPIUS,2HERMES",
   "0STAMPED ENVELOPE,0STANDING PERSON,0STAR AND CRESCENT,1EQUALS,1OF DAVID,1OPERATOR",
   "1WITH LEFT HALF BLACK,2RIGHT HALF BLACK,0START OF GUARDED AREA,2HEADING,2PROTECTED AREA",
   "2SELECTED AREA,2STRING,2TEXT,0STATION,0STATUE OF LIBERTY,0STEAM LOCOMOTIVE,0STEAMING BOWL",
   "0STENOGRAPHIC FULL STOP,0STETHOSCOPE,0STICK FIGURE,2LEANING LEFT,3RIGHT,2WITH ARMS RAISED",
   "3DRESS,0STOCK CHART,0STOPWATCH,0STRAIGHT RULER,0STRAIGHTNESS,0STRAWBERRY",
   "0STRESS OUTLINED WHITE STAR,0STRICTLY EQUIVALENT TO,0STRING TERMINATOR,0STS,0STUDIO MICROPHONE",
   "0STUFFED FLATBREAD,0STUPA,0STX,0SUB,0SUBSCRIPT EIGHT,1EQUALS SIGN,1FIVE,1FOUR",
   "1LEFT PARENTHESIS,1MINUS,1NINE,1ONE,1PLUS SIGN,1RIGHT PARENTHESIS,1SEVEN,1SIX,1THREE,1TWO",
   "1ZERO,0SUBSET ABOVE RIGHTWARDS ARROW,2SUBSET,2SUPERSET,1OF,2ABOVE ALMOST EQUAL TO,3EQUALS SIGN",
   "3NOT EQUAL TO,3TILDE OPERATOR,2OR EQUAL TO,5WITH DOT ABOVE,2WITH NOT EQUAL TO,1WITH DOT",
   "2MULTIPLICATION SIGN BELOW,2PLUS SIGN BELOW,0SUBSTITUTE,0SUCCEEDS,1ABOVE ALMOST EQUAL TO",
   "2EQUALS SIGN,2NOT ALMOST EQUAL TO,3EQUAL TO,2SINGLE-LINE EQUALS SIGN,3NOT EQUAL TO",
   "1BUT NOT EQUIVALENT TO,1OR EQUAL TO,2EQUIVALENT TO,1UNDER RELATION,0SUMMATION BOTTOM,1TOP",
   "1WITH INTEGRAL,0SUN,1BEHIND CLOUD,1WITH FACE,0SUNDANESE AVAGRAHA,1CONSONANT SIGN PAMINGKAL",
   "3PANYAKRA,3PANYIKU,3PASANGAN MA,4WA,1DIGIT EIGHT,2FIVE,2FOUR,2NINE,2ONE,2SEVEN,2SIX,2THREE",
   "2TWO,2ZERO,1LETTER A,2AE,2BA,2BHA,2CA,2DA,2E,2EU,2FA,2FINAL K,3M,2GA,2HA,2I,2JA,2KA,2KHA,2LA",
   "2LEU,2MA,2NA,2NGA,2NYA,2O,2PA,2QA,2RA,2REU,2SA,2SYA,2TA,2U,2VA,2WA,2XA,2YA,2ZA",
   "1PUNCTUATION BINDU BA SATANGA,3CAKRA,3DA SATANGA,3KA SATANGA,3LEU SATANGA,3PANGLONG,3PURNAMA",
   "3SURYA,1SIGN PAMAAEH,2PANGLAYAR,2PANGWISAD,2PANYECEK,2VIRAMA,1VOWEL SIGN PAMEPET,3PANAELAENG",
   "3PANEULEUNG,3PANGHULU,3PANOLONG,3PANYUKU,0SUNFLOWER,0SUNRISE,1OVER MOUNTAINS",
   "0SUNSET OVER BUILDINGS,0SUPERHERO,0SUPERSCRIPT EIGHT,1EQUALS SIGN,1FIVE,1FOUR",
   "1LATIN SMALL LETTER I,4N,1LEFT PARENTHESIS,1MINUS,1NINE,1ONE,1PLUS SIGN,1RIGHT PARENTHESIS",
   "1SEVEN,1SIX,1THREE,1TWO,1ZERO,0SUPERSET ABOVE LEFTWARDS ARROW,2SUBSET,2SUPERSET",
   "1BESIDE AND JOINED BY DASH WITH SUBSET,2SUBSET,1OF,2ABOVE ALMOST EQUAL TO,3EQUALS SIGN",
   "3NOT EQUAL TO,3TILDE OPERATOR,2OR EQUAL TO,5WITH DOT ABOVE,2WITH NOT EQUAL TO",
   "1PRECEDING SOLIDUS,1WITH DOT,2MULTIPLICATION SIGN BELOW,2PLUS SIGN BELOW,0SUPERVILLAIN",
   "0SURFACE INTEGRAL,0SURFER,0SUSHI,0SUSPENSION RAILWAY,0SWAN,0SWASH AMPERSAND ORNAMENT,0SWIMMER",
   "0SWUNG DASH,0SYLOTI NAGRI LETTER A,3BHO,3BO,3CHO,3CO,3DDHO,3DDO,3DHO,3DO,3E,3GHO,3GO,3HO,3I",
   "3JHO,3JO,3KHO,3KO,3LO,3MO,3NO,3O,3PHO,3PO,3RO,3RRO,3SO,3THO,3TO,3TTHO,3TTO,3U,2POETRY MARK-1",
   "3MARK-2,3MARK-3,3MARK-4,2SIGN ALTERNATE HASANTA,3ANUSVARA,3DVISVARA,3HASANTA,2VOWEL SIGN A,4E",
   "4I,4OO,4U,0SYMBOL FOR ACKNOWLEDGE,2BACKSPACE,2BELL,2CANCEL,2CARRIAGE RETURN,2DATA LINK ESCAPE",
   "2DELETE,3FORM TWO,2DEVICE CONTROL FOUR,4ONE,4THREE,4TWO,2END OF MEDIUM,4TEXT,4TRANSMISSION",
   "5BLOCK,2ENQUIRY,2ESCAPE,2FILE SEPARATOR,2FORM FEED,2GROUP SEPARATOR,2HORIZONTAL TABULATION",
   "2LINE FEED,2MARKS CHAPTER,2NEGATIVE ACKNOWLEDGE,2NEWLINE,2NULL,2RECORD SEPARATOR",
   "2SAMARITAN SOURCE,2SHIFT IN,3OUT,2SPACE,2START OF HEADING,4TEXT,2SUBSTITUTE,3FORM TWO",
   "2SYNCHRONOUS IDLE,2TYPE A ELECTRONICS,2UNIT SEPARATOR,2VERTICAL TABULATION,0SYMMETRY,0SYN",
   "0SYNAGOGUE,0SYNCHRONOUS IDLE,0SYRIAC ABBREVIATION MARK,1BARREKH,1COLON SKEWED LEFT,3RIGHT",
   "1CONTRACTION,1DOTTED ZLAMA ANGULAR,3HORIZONTAL,1END OF PARAGRAPH,1ESASA ABOVE,2BELOW",
   "1FEMININE DOT,1HARKLEAN ASTERISCUS,2METOBELUS,2OBELUS,1HBASA ABOVE,2BELOW,1HBASA-ESASA DOTTED",
   "1HORIZONTAL COLON,1LETTER ALAPH,2BETH,2DALATH,2DOTLESS DALATH RISH,2E,2FINAL SEMKATH,2GAMAL",
   "3GARSHUNI,2HE,2HETH,2KAPH,2LAMADH,2MALAYALAM BHA,3JA,3LLA,3LLLA,3NGA,3NNA,3NNNA,3NYA,3RA,3SSA",
   "3TTA,2MIM,2NUN,2PE,2PERSIAN BHETH,3DHALATH,3GHAMAL,2QAPH,2REVERSED PE,2RISH,2SADHE,2SEMKATH",
   "2SHIN,2SOGDIAN FE,3KHAPH,3ZHAIN,2SUPERSCRIPT ALAPH,2TAW,2TETH,3GARSHUNI,2WAW,2YUDH,3HE,2ZAIN",
   "1MUSIC,1OBLIQUE LINE ABOVE,3BELOW,1PTHAHA ABOVE,2BELOW,2DOTTED,1QUSHSHAYA,1RBASA ABOVE,2BELOW",
   "1RUKKAKHA,1RWAHA,1SUBLINEAR COLON,3SKEWED LEFT,4RIGHT,2FULL STOP,1SUPRALINEAR COLON",
   "3SKEWED LEFT,2FULL STOP,1THREE DOTS ABOVE,3BELOW,1TWO VERTICAL DOTS ABOVE,4BELOW,1ZQAPHA ABOVE",
   "2BELOW,2DOTTED,0SYRINGE"]

end Text
end Typings
