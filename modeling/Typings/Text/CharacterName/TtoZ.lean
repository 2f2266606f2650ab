/-!
# Names of characters from T to Z

`Text.namesFromTToZ` holds names in rows of entries with commas between them. An entry starts with
a hexadecimal digit, the number of words that it shares with the name in front of it; its other
words follow.
-/

namespace Typings
namespace Text

def namesFromTToZ : List String :=
  ["0T-REX,0T-SHIRT,0TAB,0TABLE TENNIS PADDLE AND BALL,0TACO,0TAG AMPERSAND,1APOSTROPHE,1ASTERISK",
   "1CIRCUMFLEX ACCENT,1COLON,1COMMA,1COMMERCIAL AT,1DIGIT EIGHT,2FIVE,2FOUR,2NINE,2ONE,2SEVEN",
   "2SIX,2THREE,2TWO,2ZERO,1DOLLAR SIGN,1EQUALS SIGN,1EXCLAMATION MARK,1FULL STOP,1GRAVE ACCENT",
   "1GREATER-THAN SIGN,1HYPHEN-MINUS,1LATIN CAPITAL LETTER A,4B,4C,4D,4E,4F,4G,4H,4I,4J,4K,4L,4M",
   "4N,4O,4P,4Q,4R,4S,4T,4U,4V,4W,4X,4Y,4Z,2SMALL LETTER A,4B,4C,4D,4E,4F,4G,4H,4I,4J,4K,4L,4M,4N",
   "4O,4P,4Q,4R,4S,4T,4U,4V,4W,4X,4Y,4Z,1LEFT CURLY BRACKET,2PARENTHESIS,2SQUARE BRACKET",
   "1LESS-THAN SIGN,1LOW LINE,1NUMBER SIGN,1PERCENT SIGN,1PLUS SIGN,1QUESTION MARK,1QUOTATION MARK",
   "1REVERSE SOLIDUS,1RIGHT CURLY BRACKET,2PARENTHESIS,2SQUARE BRACKET,1SEMICOLON,1SOLIDUS,1SPACE",
   "1TILDE,1VERTICAL LINE,0TAGALOG LETTER A,2ARCHAIC RA,2BA,2DA,2GA,2HA,2I,2KA,2LA,2MA,2NA,2NGA",
   "2PA,2RA,2SA,2TA,2U,2WA,2YA,1SIGN PAMUDPOD,2VIRAMA,1VOWEL SIGN I,3U,0TAGBANWA LETTER A,2BA,2DA",
   "2GA,2I,2KA,2LA,2MA,2NA,2NGA,2PA,2SA,2TA,2U,2WA,2YA,1VOWEL SIGN I,3U,0TAI LE LETTER A,3AI,3AUE",
   "3E,3EE,3EH,3FA,3HA,3I,3KA,3KHA,3LA,3MA,3NA,3NGA,3O,3OO,3PA,3PHA,3QA,3SA,3TA,3THA,3TONE-2",
   "3TONE-3,3TONE-4,3TONE-5,3TONE-6,3TSA,3TSHA,3U,3UE,3VA,3XA,3YA",
   "1THAM COMBINING CRYPTOGRAMMIC DOT,2CONSONANT SIGN BA,4FINAL NGA,4HIGH RATHA OR LOW PA",
   "4LA TANG LAI,4LOW PA,4MA,4MEDIAL LA,5RA,4SA,2HORA DIGIT EIGHT,4FIVE,4FOUR,4NINE,4ONE,4SEVEN",
   "4SIX,4THREE,4TWO,4ZERO,2LETTER A,3BA,3DA,3EE,3GREAT SA,3HIGH CA,4CHA,4FA,4HA,4KA,4KHA,4KXA,4PA",
   "4PHA,4RATHA,4SA,4SHA,4SSA,4TA,4THA,4YA,3I,3II,3LA,3LAE,3LLA,3LOW CA,4CHA,4FA,4HA,4KA,4KHA,4KXA",
   "4PA,4PHA,4RATHA,4SA,4TA,4THA,4YA,3LUE,3MA,3NA,3NGA,3NYA,3OO,3RA,3RANA,3RATA,3RUE,3U,3UU,3WA",
   "2SIGN CAANG,3DOKMAI,3HANG,3HOY,3KAAN,3KAANKUU,3KEOW,3KHUEN TONE-3,4TONE-4,4TONE-5",
   "3KHUEN-LUE KARAN,3MAI KANG,5LAI,4SAM,4YAMOK,3RA HAAM,3REVERSED ROTATED RANA,3SAKOT,3SATKAAN",
   "3SATKAANKUU,3SAWAN,3TONE-1,3TONE-2,3WIANG,3WIANGWAAK,2THAM DIGIT EIGHT,4FIVE,4FOUR,4NINE,4ONE",
   "4SEVEN,4SIX,4THREE,4TWO,4ZERO,2VOWEL SIGN A,4AA,4AE,4AI,4E,4I,4II,4MAI SAT,4O,4OA ABOVE,5BELOW",
   "4OO,4OY,4TALL AA,4THAM AI,4U,4UE,4UU,4UUE,1VIET LETTER HIGH BO,4CHO,4CO,4DO,4FO,4GO,4HO,4KHHO",
   "4KHO,4KO,4LO,4MO,4NGO,4NO,4NYO,4O,4PHO,4PO,4RO,4SO,4THO,4TO,4VO,4YO,3LOW BO,4CHO,4CO,4DO,4FO",
   "4GO,4HO,4KHHO,4KHO,4KO,4LO,4MO,4NGO,4NO,4NYO,4O,4PHO,4PO,4RO,4SO,4THO,4TO,4VO,4YO,2MAI KANG",
   "3KHIT,2SYMBOL HO HOI,3KOI KOI,3KON,3NUENG,3SAM,2TONE MAI EK,4NUENG,4SONG,4THO,2VOWEL AA,3AM",
   "3AN,3AUE,3AY,3E,3I,3IA,3O,3U,3UA,3UE,3UEA,0TAKEOUT BOX,0TAKRI ABBREVIATION SIGN,1DIGIT EIGHT",
   "2FIVE,2FOUR,2NINE,2ONE,2SEVEN,2SIX,2THREE,2TWO,2ZERO,1LETTER A,2AA,2AI,2ARCHAIC KHA,2AU,2BA",
   "2BHA,2CA,2CHA,2DA,2DDA,2DDHA,2DHA,2E,2GA,2GHA,2HA,2I,2II,2JA,2JHA,2KA,2KHA,2LA,2MA,2NA,2NGA",
   "2NNA,2NYA,2O,2PA,2PHA,2RA,2RRA,2SA,2SHA,2TA,2THA,2TTA,2TTHA,2U,2UU,2VA,2YA,1SIGN ANUSVARA",
   "2NUKTA,2VIRAMA,2VISARGA,1VOWEL SIGN AA,3AI,3AU,3E,3I,3II,3O,3U,3UU,0TALLY MARK FIVE,2ONE",
   "0TAMALE,0TAMIL AND ODD SIGN,1AS ABOVE SIGN,1AU LENGTH MARK,1CREDIT SIGN,1CURRENT SIGN",
   "1DAY SIGN,1DEBIT SIGN,1DIGIT EIGHT,2FIVE,2FOUR,2NINE,2ONE,2SEVEN,2SIX,2THREE,2TWO,2ZERO",
   "1DRY CULTIVATION SIGN,1FRACTION DOWNSCALING FACTOR KIIZH,2ONE EIGHTH,3EIGHTIETH,3FIFTH",
   "3FORTIETH,3HALF-1,3HALF-2,3ONE-HUNDRED-AND-SIXTIETH,3QUARTER,3SIXTEENTH-1,3SIXTEENTH-2",
   "3SIXTY-FOURTH,3TENTH,3THIRTY-SECOND,3THREE-HUNDRED-AND-TWENTIETH,3TWENTIETH,2THREE EIGHTIETHS",
   "3QUARTERS,3SIXTEENTHS,3SIXTY-FOURTHS,3TWENTIETHS,1IN POSSESSION SIGN,1LAND SIGN,1LETTER A,2AA",
   "2AI,2AU,2CA,2E,2EE,2HA,2I,2II,2JA,2KA,2LA,2LLA,2LLLA,2MA,2NA,2NGA,2NNA,2NNNA,2NYA,2O,2OO,2PA",
   "2RA,2RRA,2SA,2SHA,2SSA,2TA,2TTA,2U,2UU,2VA,2YA,1MONTH SIGN,1NUMBER ONE HUNDRED,3THOUSAND,2SIGN",
   "2TEN,1OM,1PUNCTUATION END OF TEXT,1RUPEE SIGN,1SALT PAN SIGN,1SIGN AAZHAAKKU,2ANUSVARA,2CEVITU",
   "2KAACU,2KURUNI,2KUZHI,2MUKKURUNI,2MUTHALIYA,2MUUVUZHAKKU,2NEL,2PAARAM,2PANAM,2PATHAKKU,2PON",
   "2UZHAKKU,2VAKAIYARAA,2VARAAKAN,2VELI,2VIRAMA,2VISARGA,1SPENT SIGN,1STARTING FROM SIGN",
   "1TOTAL SIGN,1TRADITIONAL CREDIT SIGN,2NUMBER SIGN,1VOWEL SIGN AA,3AI,3AU,3E,3EE,3I,3II,3O,3OO",
   "3U,3UU,1WET CULTIVATION SIGN,1YEAR SIGN,0TANABATA TREE,0TANGERINE,0TANGSA DIGIT EIGHT,2FIVE",
   "2FOUR,2NINE,2ONE,2SEVEN,2SIX,2THREE,2TWO,2ZERO,1LETTER AC,2AQ,2AWC,2AWQ,2AWX,2AWZ,2AX,2AZ,2BA",
   "2CA,2CHA,2DA,2DHA,2EC,2EQ,2EX,2EZ,2FA,2FINAL NG,2GA,2GHA,2HA,2HTA,2HTTA,2IC,2IQ,2IX,2IZ,2KA",
   "2KHA,2LA,2LONG UEX,2MA,2MC,2MQ,2MX,2MZ,2NA,2NGA,2NHA,2NYA,2OC,2OQ,2OX,2OZ,2PA,2PHA,2RA,2SA",
   "2SHA,2SHORT AWX,3UEZ,2TA,2THA,2TSA,2UC,2UEC,2UEQ,2UEX,2UEZ,2UIC,2UIQ,2UIUC,2UIUQ,2UIUX,2UIUZ",
   "2UIX,2UIZ,2UQ,2UX,2UZ,2VC,2VQ,2VX,2VZ,2WA,2XA,2YA,2ZA,0TANGUT COMPONENT-001,1COMPONENT-002",
   "1COMPONENT-003,1COMPONENT-004,1COMPONENT-005,1COMPONENT-006,1COMPONENT-007,1COMPONENT-008",
   "1COMPONENT-009,1COMPONENT-010,1COMPONENT-011,1COMPONENT-012,1COMPONENT-013,1COMPONENT-014",
   "1COMPONENT-015,1COMPONENT-016,1COMPONENT-017,1COMPONENT-018,1COMPONENT-019,1COMPONENT-020",
   "1COMPONENT-021,1COMPONENT-022,1COMPONENT-023,1COMPONENT-024,1COMPONENT-025,1COMPONENT-026",
   "1COMPONENT-027,1COMPONENT-028,1COMPONENT-029,1COMPONENT-030,1COMPONENT-031,1COMPONENT-032",
   "1COMPONENT-033,1COMPONENT-034,1COMPONENT-035,1COMPONENT-036,1COMPONENT-037,1COMPONENT-038",
   "1COMPONENT-039,1COMPONENT-040,1COMPONENT-041,1COMPONENT-042,1COMPONENT-043,1COMPONENT-044",
   "1COMPONENT-045,1COMPONENT-046,1COMPONENT-047,1COMPONENT-048,1COMPONENT-049,1COMPONENT-050",
   "1COMPONENT-051,1COMPONENT-052,1COMPONENT-053,1COMPONENT-054,1COMPONENT-055,1COMPONENT-056",
   "1COMPONENT-057,1COMPONENT-058,1COMPONENT-059,1COMPONENT-060,1COMPONENT-061,1COMPONENT-062",
   "1COMPONENT-063,1COMPONENT-064,1COMPONENT-065,1COMPONENT-066,1COMPONENT-067,1COMPONENT-068",
   "1COMPONENT-069,1COMPONENT-070,1COMPONENT-071,1COMPONENT-072,1COMPONENT-073,1COMPONENT-074",
   "1COMPONENT-075,1COMPONENT-076,1COMPONENT-077,1COMPONENT-078,1COMPONENT-079,1COMPONENT-080",
   "1COMPONENT-081,1COMPONENT-082,1COMPONENT-083,1COMPONENT-084,1COMPONENT-085,1COMPONENT-086",
   "1COMPONENT-087,1COMPONENT-088,1COMPONENT-089,1COMPONENT-090,1COMPONENT-091,1COMPONENT-092",
   "1COMPONENT-093,1COMPONENT-094,1COMPONENT-095,1COMPONENT-096,1COMPONENT-097,1COMPONENT-098",
   "1COMPONENT-099,1COMPONENT-100,1COMPONENT-101,1COMPONENT-102,1COMPONENT-103,1COMPONENT-104",
   "1COMPONENT-105,1COMPONENT-106,1COMPONENT-107,1COMPONENT-108,1COMPONENT-109,1COMPONENT-110",
   "1COMPONENT-111,1COMPONENT-112,1COMPONENT-113,1COMPONENT-114,1COMPONENT-115,1COMPONENT-116",
   "1COMPONENT-117,1COMPONENT-118,1COMPONENT-119,1COMPONENT-120,1COMPONENT-121,1COMPONENT-122",
   "1COMPONENT-123,1COMPONENT-124,1COMPONENT-125,1COMPONENT-126,1COMPONENT-127,1COMPONENT-128",
   "1COMPONENT-129,1COMPONENT-130,1COMPONENT-131,1COMPONENT-132,1COMPONENT-133,1COMPONENT-134",
   "1COMPONENT-135,1COMPONENT-136,1COMPONENT-137,1COMPONENT-138,1COMPONENT-139,1COMPONENT-140",
   "1COMPONENT-141,1COMPONENT-142,1COMPONENT-143,1COMPONENT-144,1COMPONENT-145,1COMPONENT-146",
   "1COMPONENT-147,1COMPONENT-148,1COMPONENT-149,1COMPONENT-150,1COMPONENT-151,1COMPONENT-152",
   "1COMPONENT-153,1COMPONENT-154,1COMPONENT-155,1COMPONENT-156,1COMPONENT-157,1COMPONENT-158",
   "1COMPONENT-159,1COMPONENT-160,1COMPONENT-161,1COMPONENT-162,1COMPONENT-163,1COMPONENT-164",
   "1COMPONENT-165,1COMPONENT-166,1COMPONENT-167,1COMPONENT-168,1COMPONENT-169,1COMPONENT-170",
   "1COMPONENT-171,1COMPONENT-172,1COMPONENT-173,1COMPONENT-174,1COMPONENT-175,1COMPONENT-176",
   "1COMPONENT-177,1COMPONENT-178,1COMPONENT-179,1COMPONENT-180,1COMPONENT-181,1COMPONENT-182",
   "1COMPONENT-183,1COMPONENT-184,1COMPONENT-185,1COMPONENT-186,1COMPONENT-187,1COMPONENT-188",
   "1COMPONENT-189,1COMPONENT-190,1COMPONENT-191,1COMPONENT-192,1COMPONENT-193,1COMPONENT-194",
   "1COMPONENT-195,1COMPONENT-196,1COMPONENT-197,1COMPONENT-198,1COMPONENT-199,1COMPONENT-200",
   "1COMPONENT-201,1COMPONENT-202,1COMPONENT-203,1COMPONENT-204,1COMPONENT-205,1COMPONENT-206",
   "1COMPONENT-207,1COMPONENT-208,1COMPONENT-209,1COMPONENT-210,1COMPONENT-211,1COMPONENT-212",
   "1COMPONENT-213,1COMPONENT-214,1COMPONENT-215,1COMPONENT-216,1COMPONENT-217,1COMPONENT-218",
   "1COMPONENT-219,1COMPONENT-220,1COMPONENT-221,1COMPONENT-222,1COMPONENT-223,1COMPONENT-224",
   "1COMPONENT-225,1COMPONENT-226,1COMPONENT-227,1COMPONENT-228,1COMPONENT-229,1COMPONENT-230",
   "1COMPONENT-231,1COMPONENT-232,1COMPONENT-233,1COMPONENT-234,1COMPONENT-235,1COMPONENT-236",
   "1COMPONENT-237,1COMPONENT-238,1COMPONENT-239,1COMPONENT-240,1COMPONENT-241,1COMPONENT-242",
   "1COMPONENT-243,1COMPONENT-244,1COMPONENT-245,1COMPONENT-246,1COMPONENT-247,1COMPONENT-248",
   "1COMPONENT-249,1COMPONENT-250,1COMPONENT-251,1COMPONENT-252,1COMPONENT-253,1COMPONENT-254",
   "1COMPONENT-255,1COMPONENT-256,1COMPONENT-257,1COMPONENT-258,1COMPONENT-259,1COMPONENT-260",
   "1COMPONENT-261,1COMPONENT-262,1COMPONENT-263,1COMPONENT-264,1COMPONENT-265,1COMPONENT-266",
   "1COMPONENT-267,1COMPONENT-268,1COMPONENT-269,1COMPONENT-270,1COMPONENT-271,1COMPONENT-272",
   "1COMPONENT-273,1COMPONENT-274,1COMPONENT-275,1COMPONENT-276,1COMPONENT-277,1COMPONENT-278",
   "1COMPONENT-279,1COMPONENT-280,1COMPONENT-281,1COMPONENT-282,1COMPONENT-283,1COMPONENT-284",
   "1COMPONENT-285,1COMPONENT-286,1COMPONENT-287,1COMPONENT-288,1COMPONENT-289,1COMPONENT-290",
   "1COMPONENT-291,1COMPONENT-292,1COMPONENT-293,1COMPONENT-294,1COMPONENT-295,1COMPONENT-296",
   "1COMPONENT-297,1COMPONENT-298,1COMPONENT-299,1COMPONENT-300,1COMPONENT-301,1COMPONENT-302",
   "1COMPONENT-303,1COMPONENT-304,1COMPONENT-305,1COMPONENT-306,1COMPONENT-307,1COMPONENT-308",
   "1COMPONENT-309,1COMPONENT-310,1COMPONENT-311,1COMPONENT-312,1COMPONENT-313,1COMPONENT-314",
   "1COMPONENT-315,1COMPONENT-316,1COMPONENT-317,1COMPONENT-318,1COMPONENT-319,1COMPONENT-320",
   "1COMPONENT-321,1COMPONENT-322,1COMPONENT-323,1COMPONENT-324,1COMPONENT-325,1COMPONENT-326",
   "1COMPONENT-327,1COMPONENT-328,1COMPONENT-329,1COMPONENT-330,1COMPONENT-331,1COMPONENT-332",
   "1COMPONENT-333,1COMPONENT-334,1COMPONENT-335,1COMPONENT-336,1COMPONENT-337,1COMPONENT-338",
   "1COMPONENT-339,1COMPONENT-340,1COMPONENT-341,1COMPONENT-342,1COMPONENT-343,1COMPONENT-344",
   "1COMPONENT-345,1COMPONENT-346,1COMPONENT-347,1COMPONENT-348,1COMPONENT-349,1COMPONENT-350",
   "1COMPONENT-351,1COMPONENT-352,1COMPONENT-353,1COMPONENT-354,1COMPONENT-355,1COMPONENT-356",
   "1COMPONENT-357,1COMPONENT-358,1COMPONENT-359,1COMPONENT-360,1COMPONENT-361,1COMPONENT-362",
   "1COMPONENT-363,1COMPONENT-364,1COMPONENT-365,1COMPONENT-366,1COMPONENT-367,1COMPONENT-368",
   "1COMPONENT-369,1COMPONENT-370,1COMPONENT-371,1COMPONENT-372,1COMPONENT-373,1COMPONENT-374",
   "1COMPONENT-375,1COMPONENT-376,1COMPONENT-377,1COMPONENT-378,1COMPONENT-379,1COMPONENT-380",
   "1COMPONENT-381,1COMPONENT-382,1COMPONENT-383,1COMPONENT-384,1COMPONENT-385,1COMPONENT-386",
   "1COMPONENT-387,1COMPONENT-388,1COMPONENT-389,1COMPONENT-390,1COMPONENT-391,1COMPONENT-392",
   "1COMPONENT-393,1COMPONENT-394,1COMPONENT-395,1COMPONENT-396,1COMPONENT-397,1COMPONENT-398",
   "1COMPONENT-399,1COMPONENT-400,1COMPONENT-401,1COMPONENT-402,1COMPONENT-403,1COMPONENT-404",
   "1COMPONENT-405,1COMPONENT-406,1COMPONENT-407,1COMPONENT-408,1COMPONENT-409,1COMPONENT-410",
   "1COMPONENT-411,1COMPONENT-412,1COMPONENT-413,1COMPONENT-414,1COMPONENT-415,1COMPONENT-416",
   "1COMPONENT-417,1COMPONENT-418,1COMPONENT-419,1COMPONENT-420,1COMPONENT-421,1COMPONENT-422",
   "1COMPONENT-423,1COMPONENT-424,1COMPONENT-425,1COMPONENT-426,1COMPONENT-427,1COMPONENT-428",
   "1COMPONENT-429,1COMPONENT-430,1COMPONENT-431,1COMPONENT-432,1COMPONENT-433,1COMPONENT-434",
   "1COMPONENT-435,1COMPONENT-436,1COMPONENT-437,1COMPONENT-438,1COMPONENT-439,1COMPONENT-440",
   "1COMPONENT-441,1COMPONENT-442,1COMPONENT-443,1COMPONENT-444,1COMPONENT-445,1COMPONENT-446",
   "1COMPONENT-447,1COMPONENT-448,1COMPONENT-449,1COMPONENT-450,1COMPONENT-451,1COMPONENT-452",
   "1COMPONENT-453,1COMPONENT-454,1COMPONENT-455,1COMPONENT-456,1COMPONENT-457,1COMPONENT-458",
   "1COMPONENT-459,1COMPONENT-460,1COMPONENT-461,1COMPONENT-462,1COMPONENT-463,1COMPONENT-464",
   "1COMPONENT-465,1COMPONENT-466,1COMPONENT-467,1COMPONENT-468,1COMPONENT-469,1COMPONENT-470",
   "1COMPONENT-471,1COMPONENT-472,1COMPONENT-473,1COMPONENT-474,1COMPONENT-475,1COMPONENT-476",
   "1COMPONENT-477,1COMPONENT-478,1COMPONENT-479,1COMPONENT-480,1COMPONENT-481,1COMPONENT-482",
   "1COMPONENT-483,1COMPONENT-484,1COMPONENT-485,1COMPONENT-486,1COMPONENT-487,1COMPONENT-488",
   "1COMPONENT-489,1COMPONENT-490,1COMPONENT-491,1COMPONENT-492,1COMPONENT-493,1COMPONENT-494",
   "1COMPONENT-495,1COMPONENT-496,1COMPONENT-497,1COMPONENT-498,1COMPONENT-499,1COMPONENT-500",
   "1COMPONENT-501,1COMPONENT-502,1COMPONENT-503,1COMPONENT-504,1COMPONENT-505,1COMPONENT-506",
   "1COMPONENT-507,1COMPONENT-508,1COMPONENT-509,1COMPONENT-510,1COMPONENT-511,1COMPONENT-512",
   "1COMPONENT-513,1COMPONENT-514,1COMPONENT-515,1COMPONENT-516,1COMPONENT-517,1COMPONENT-518",
   "1COMPONENT-519,1COMPONENT-520,1COMPONENT-521,1COMPONENT-522,1COMPONENT-523,1COMPONENT-524",
   "1COMPONENT-525,1COMPONENT-526,1COMPONENT-527,1COMPONENT-528,1COMPONENT-529,1COMPONENT-530",
   "1COMPONENT-531,1COMPONENT-532,1COMPONENT-533,1COMPONENT-534,1COMPONENT-535,1COMPONENT-536",
   "1COMPONENT-537,1COMPONENT-538,1COMPONENT-539,1COMPONENT-540,1COMPONENT-541,1COMPONENT-542",
   "1COMPONENT-543,1COMPONENT-544,1COMPONENT-545,1COMPONENT-546,1COMPONENT-547,1COMPONENT-548",
   "1COMPONENT-549,1COMPONENT-550,1COMPONENT-551,1COMPONENT-552,1COMPONENT-553,1COMPONENT-554",
   "1COMPONENT-555,1COMPONENT-556,1COMPONENT-557,1COMPONENT-558,1COMPONENT-559,1COMPONENT-560",
   "1COMPONENT-561,1COMPONENT-562,1COMPONENT-563,1COMPONENT-564,1COMPONENT-565,1COMPONENT-566",
   "1COMPONENT-567,1COMPONENT-568,1COMPONENT-569,1COMPONENT-570,1COMPONENT-571,1COMPONENT-572",
   "1COMPONENT-573,1COMPONENT-574,1COMPONENT-575,1COMPONENT-576,1COMPONENT-577,1COMPONENT-578",
   "1COMPONENT-579,1COMPONENT-580,1COMPONENT-581,1COMPONENT-582,1COMPONENT-583,1COMPONENT-584",
   "1COMPONENT-585,1COMPONENT-586,1COMPONENT-587,1COMPONENT-588,1COMPONENT-589,1COMPONENT-590",
   "1COMPONENT-591,1COMPONENT-592,1COMPONENT-593,1COMPONENT-594,1COMPONENT-595,1COMPONENT-596",
   "1COMPONENT-597,1COMPONENT-598,1COMPONENT-599,1COMPONENT-600,1COMPONENT-601,1COMPONENT-602",
   "1COMPONENT-603,1COMPONENT-604,1COMPONENT-605,1COMPONENT-606,1COMPONENT-607,1COMPONENT-608",
   "1COMPONENT-609,1COMPONENT-610,1COMPONENT-611,1COMPONENT-612,1COMPONENT-613,1COMPONENT-614",
   "1COMPONENT-615,1COMPONENT-616,1COMPONENT-617,1COMPONENT-618,1COMPONENT-619,1COMPONENT-620",
   "1COMPONENT-621,1COMPONENT-622,1COMPONENT-623,1COMPONENT-624,1COMPONENT-625,1COMPONENT-626",
   "1COMPONENT-627,1COMPONENT-628,1COMPONENT-629,1COMPONENT-630,1COMPONENT-631,1COMPONENT-632",
   "1COMPONENT-633,1COMPONENT-634,1COMPONENT-635,1COMPONENT-636,1COMPONENT-637,1COMPONENT-638",
   "1COMPONENT-639,1COMPONENT-640,1COMPONENT-641,1COMPONENT-642,1COMPONENT-643,1COMPONENT-644",
   "1COMPONENT-645,1COMPONENT-646,1COMPONENT-647,1COMPONENT-648,1COMPONENT-649,1COMPONENT-650",
   "1COMPONENT-651,1COMPONENT-652,1COMPONENT-653,1COMPONENT-654,1COMPONENT-655,1COMPONENT-656",
   "1COMPONENT-657,1COMPONENT-658,1COMPONENT-659,1COMPONENT-660,1COMPONENT-661,1COMPONENT-662",
   "1COMPONENT-663,1COMPONENT-664,1COMPONENT-665,1COMPONENT-666,1COMPONENT-667,1COMPONENT-668",
   "1COMPONENT-669,1COMPONENT-670,1COMPONENT-671,1COMPONENT-672,1COMPONENT-673,1COMPONENT-674",
   "1COMPONENT-675,1COMPONENT-676,1COMPONENT-677,1COMPONENT-678,1COMPONENT-679,1COMPONENT-680",
   "1COMPONENT-681,1COMPONENT-682,1COMPONENT-683,1COMPONENT-684,1COMPONENT-685,1COMPONENT-686",
   "1COMPONENT-687,1COMPONENT-688,1COMPONENT-689,1COMPONENT-690,1COMPONENT-691,1COMPONENT-692",
   "1COMPONENT-693,1COMPONENT-694,1COMPONENT-695,1COMPONENT-696,1COMPONENT-697,1COMPONENT-698",
   "1COMPONENT-699,1COMPONENT-700,1COMPONENT-701,1COMPONENT-702,1COMPONENT-703,1COMPONENT-704",
   "1COMPONENT-705,1COMPONENT-706,1COMPONENT-707,1COMPONENT-708,1COMPONENT-709,1COMPONENT-710",
   "1COMPONENT-711,1COMPONENT-712,1COMPONENT-713,1COMPONENT-714,1COMPONENT-715,1COMPONENT-716",
   "1COMPONENT-717,1COMPONENT-718,1COMPONENT-719,1COMPONENT-720,1COMPONENT-721,1COMPONENT-722",
   "1COMPONENT-723,1COMPONENT-724,1COMPONENT-725,1COMPONENT-726,1COMPONENT-727,1COMPONENT-728",
   "1COMPONENT-729,1COMPONENT-730,1COMPONENT-731,1COMPONENT-732,1COMPONENT-733,1COMPONENT-734",
   "1COMPONENT-735,1COMPONENT-736,1COMPONENT-737,1COMPONENT-738,1COMPONENT-739,1COMPONENT-740",
   "1COMPONENT-741,1COMPONENT-742,1COMPONENT-743,1COMPONENT-744,1COMPONENT-745,1COMPONENT-746",
   "1COMPONENT-747,1COMPONENT-748,1COMPONENT-749,1COMPONENT-750,1COMPONENT-751,1COMPONENT-752",
   "1COMPONENT-753,1COMPONENT-754,1COMPONENT-755,1COMPONENT-756,1COMPONENT-757,1COMPONENT-758",
   "1COMPONENT-759,1COMPONENT-760,1COMPONENT-761,1COMPONENT-762,1COMPONENT-763,1COMPONENT-764",
   "1COMPONENT-765,1COMPONENT-766,1COMPONENT-767,1COMPONENT-768,1ITERATION MARK,0TAPE CARTRIDGE",
   "1DRIVE,0TAURUS,0TAXI,0TEACUP WITHOUT HANDLE,0TEAPOT,0TEAR-OFF CALENDAR",
   "0TEARDROP-BARBED RIGHTWARDS ARROW,0TEARDROP-SPOKED ASTERISK,0TEDDY BEAR",
   "0TELEPHONE LOCATION SIGN,1ON TOP OF MODEM,1RECEIVER,2WITH PAGE,1RECORDER,1SIGN,0TELESCOPE",
   "0TELEVISION,0TELUGU AI LENGTH MARK,1DIGIT EIGHT,2FIVE,2FOUR,2NINE,2ONE,2SEVEN,2SIX,2THREE,2TWO",
   "2ZERO,1FRACTION DIGIT ONE FOR EVEN POWERS OF FOUR,5ODD POWERS OF FOUR",
   "3THREE FOR EVEN POWERS OF FOUR,5ODD POWERS OF FOUR,3TWO FOR EVEN POWERS OF FOUR",
   "5ODD POWERS OF FOUR,3ZERO FOR ODD POWERS OF FOUR,1LENGTH MARK,1LETTER A,2AA,2AI,2AU,2BA,2BHA",
   "2CA,2CHA,2DA,2DDA,2DDHA,2DHA,2DZA,2E,2EE,2GA,2GHA,2HA,2I,2II,2JA,2JHA,2KA,2KHA,2LA,2LLA,2LLLA",
   "2MA,2NA,2NAKAARA POLLU,2NGA,2NNA,2NYA,2O,2OO,2PA,2PHA,2RA,2RRA,2RRRA,2SA,2SHA,2SSA,2TA,2THA",
   "2TSA,2TTA,2TTHA,2U,2UU,2VA,2VOCALIC L,3LL,3R,3RR,2YA,1SIGN ANUSVARA,2AVAGRAHA,2CANDRABINDU",
   "2COMBINING ANUSVARA ABOVE,3CANDRABINDU ABOVE,2NUKTA,2SIDDHAM,2TUUMU,2VIRAMA,2VISARGA",
   "1VOWEL SIGN AA,3AI,3AU,3E,3EE,3I,3II,3O,3OO,3U,3UU,3VOCALIC L,4LL,4R,4RR,0TENGE SIGN",
   "0TENNIS RACQUET AND BALL,0TENT,0TEST TUBE,0TETRAGRAM FOR ACCUMULATION,2ADVANCE,2AGGRAVATION",
   "2ASCENT,2BARRIER,2BOLD RESOLUTION,2BRANCHING OUT,2CENTRE,2CHANGE,2CLOSED MOUTH,2CLOSENESS",
   "2CLOSURE,2COMPLETION,2COMPLIANCE,2CONSTANCY,2CONTACT,2CONTENTION,2CONTRARIETY,2DARKENING",
   "2DECISIVENESS,2DEFECTIVENESS OR DISTORTION,2DEPARTURE,2DIFFICULTIES,2DIMINISHMENT,2DIMMING",
   "2DIVERGENCE,2DOUBT,2DUTIES,2EASE,2EMBELLISHMENT,2ENCOUNTERS,2ENDEAVOUR,2ENLARGEMENT,2ETERNITY",
   "2EXHAUSTION,2FAILURE,2FLIGHT,2FOLLOWING,2FOSTERING,2FULL CIRCLE,2FULLNESS,2GATHERING,3IN",
   "2GOING TO MEET,2GREATNESS,2GUARDEDNESS,2HARDNESS,2HOLDING BACK,2INCREASE,2INNER,2JOY",
   "2KEEPING SMALL,2KINSHIP,2LABOURING,2LAW OR MODEL,2LEGION,2MASSING,2MEASURE,2MIRED",
   "2ON THE VERGE,2OPPOSITION,2PACKING,2PATTERN,2PENETRATION,2PURITY,2REACH,2RELEASE,2RESIDENCE",
   "2RESISTANCE,2RESPONSE,2RITUAL,2SEVERANCE,2SINKING,2STOPPAGE,2STOVE,2STRENGTH,2UNITY",
   "2VASTNESS OR WASTING,2WAITING,2WATCH,2YOUTHFULNESS,0THAANA AABAAFILI,1ABAFILI,1EBEFILI",
   "1EEBEEFILI,1EYBEYFILI,1IBIFILI,1LETTER AINU,2ALIFU,2BAA,2CHAVIYANI,2DAADHU,2DAVIYANI,2DHAALU",
   "2FAAFU,2GAAFU,2GHAINU,2GNAVIYANI,2HAA,2HHAA,2JAVIYANI,2KAAFU,2KHAA,2LAAMU,2LHAVIYANI,2MEEMU",
   "2NAA,2NOONU,2PAVIYANI,2QAAFU,2RAA,2SAADHU,2SEENU,2SHAVIYANI,2SHEENU,2TAVIYANI,2THAA,2THAALU",
   "2TO,2TTAA,2VAAVU,2WAAVU,2YAA,2ZAA,2ZAVIYANI,2ZO,1OABOAFILI,1OBOFILI,1OOBOOFILI,1SUKUN,1UBUFILI",
   "0THAI CHARACTER ANGKHANKHU,2BO BAIMAI,2CHO CHAN,3CHANG,3CHING,3CHOE,2DO CHADA,3DEK,2FO FA,3FAN",
   "2FONGMAN,2HO HIP,3NOKHUK,2KHO KHAI,3KHON,3KHUAT,3KHWAI,3RAKHANG,2KHOMUT,2KO KAI,2LAKKHANGYAO",
   "2LO CHULA,3LING,2LU,2MAI CHATTAWA,3EK,3HAN-AKAT,3THO,3TRI,2MAITAIKHU,2MAIYAMOK,2MO MA,2NGO NGU",
   "2NIKHAHIT,2NO NEN,3NU,2O ANG,2PAIYANNOI,2PHINTHU,2PHO PHAN,3PHUNG,3SAMPHAO,2PO PLA,2RO RUA,2RU",
   "2SARA A,3AA,3AE,3AI MAIMALAI,4MAIMUAN,3AM,3E,3I,3II,3O,3U,3UE,3UEE,3UU,2SO RUSI,3SALA,3SO,3SUA",
   "2THANTHAKHAT,2THO NANGMONTHO,3PHUTHAO,3THAHAN,3THAN,3THONG,3THUNG,2TO PATAK,3TAO,2WO WAEN",
   "2YAMAKKAN,2YO YAK,3YING,1CURRENCY SYMBOL BAHT,1DIGIT EIGHT,2FIVE,2FOUR,2NINE,2ONE,2SEVEN,2SIX",
   "2THREE,2TWO,2ZERO,0THERE DOES NOT EXIST,1EXISTS,0THEREFORE,0THERMODYNAMIC,0THERMOMETER",
   "0THIN GREEK CROSS,1SALTIRE,1SPACE,0THINKING FACE,0THIRD PLACE MEDAL,0THONG SANDAL",
   "0THOUGHT BALLOON,0THREE BUTTON MOUSE,1CONSECUTIVE EQUALS SIGNS,1DIMENSIONAL ANGLE",
   "1DOT PUNCTUATION,1LEFTWARDS ARROWS,1LINES CONVERGING LEFT,3RIGHT,1NETWORKED COMPUTERS",
   "1POINTED BLACK STAR,1RAYS ABOVE,2BELOW,2LEFT,2RIGHT,1RIGHTWARDS ARROWS,1SPEECH BUBBLES",
   "0THREE-D BOTTOM-LIGHTED RIGHTWARDS ARROWHEAD,1LEFT-LIGHTED DOWNWARDS EQUILATERAL ARROWHEAD",
   "1RIGHT-LIGHTED UPWARDS EQUILATERAL ARROWHEAD,1TOP-LIGHTED LEFTWARDS EQUILATERAL ARROWHEAD",
   "2RIGHTWARDS ARROWHEAD,3EQUILATERAL ARROWHEAD,0THREE-EM DASH,0THREE-PER-EM SPACE",
   "0THUMBS DOWN SIGN,1UP SIGN,0THUNDER CLOUD AND RAIN,0THUNDERSTORM",
   "0TIBETAN ASTROLOGICAL SIGN -KHYUD PA,3SDONG TSHUGS,3SGRA GCAN -CHAR RTAGS",
   "1CANTILLATION SIGN CANG TE-U,3HEAVY BEAT,3LIGHT BEAT,3SBUB -CHAL,1DIGIT EIGHT,2FIVE,2FOUR",
   "2HALF EIGHT,3FIVE,3FOUR,3NINE,3ONE,3SEVEN,3SIX,3THREE,3TWO,3ZERO,2NINE,2ONE,2SEVEN,2SIX,2THREE",
   "2TWO,2ZERO,1KU RU KHA,4BZHI MIG CAN,1LETTER -A,2A,2BA,2BHA,2CA,2CHA,2DA,2DDA,2DDHA,2DHA,2DZA",
   "2DZHA,2FIXED-FORM RA,2GA,2GHA,2HA,2JA,2KA,2KHA,2KKA,2KSSA,2LA,2MA,2NA,2NGA,2NNA,2NYA,2PA,2PHA",
   "2RA,2RRA,2SA,2SHA,2SSA,2TA,2THA,2TSA,2TSHA,2TTA,2TTHA,2WA,2YA,2ZA,2ZHA",
   "1LOGOTYPE SIGN CHAD RTAGS,3LHAG RTAGS,1MARK ANG KHANG GYAS,4GYON,2BKA- SHOG GI MGO RGYAN",
   "4YIG MGO,2BSDUS RTAGS,2BSKA- SHOG GI MGO RGYAN,2BSKUR YIG MGO,2CARET -DZUD RTAGS BZHI MIG CAN",
   "5ME LONG CAN,3YIG MGO PHUR SHAD MA,2CHE MGO,2CLOSING BRDA RNYING YIG MGO SGAB MA",
   "3YIG MGO SGAB MA,2DELIMITER TSHEG BSTAR,2GTER TSHEG,3YIG MGO -UM GTER TSHEG MA,6RNAM BCAD MA",
   "5TRUNCATED A,2GUG RTAGS GYAS,4GYON,2HALANTA,2INITIAL BRDA RNYING YIG MGO MDUN MA",
   "3YIG MGO MDUN MA,2INTERSYLLABIC TSHEG,2LEADING MCHAN RTAGS,2MNYAM YIG GI MGO RGYAN",
   "2NGAS BZUNG NYI ZLA,4SGOR RTAGS,2NYIS SHAD,3TSHEG,4SHAD,2PALUTA,2RGYA GRAM SHAD",
   "2RIN CHEN SPUNGS SHAD,2SBRUL SHAD,2SHAD,2TRAILING MCHAN RTAGS,2TSA -PHRU,2TSHEG SHAD",
   "2YIG MGO TSHEG SHAD MA,1SIGN GRU CAN RGYINGS,3MED RGYINGS,2INVERTED MCHU CAN,2LCE TSA CAN",
   "2LCI RTAGS,2MAR TSHES,2MCHU CAN,2NYI ZLA NAA DA,2RDEL DKAR GCIG,4GNYIS,4GSUM,4RDEL NAG",
   "3NAG GCIG,4GNYIS,4GSUM,4RDEL DKAR,2RJES SU NGA RO,2RNAM BCAD,2SNA LDAN,2YANG RTAGS,2YAR TSHES",
   "1SUBJOINED LETTER -A,3A,3BA,3BHA,3CA,3CHA,3DA,3DDA,3DDHA,3DHA,3DZA,3DZHA,3FIXED-FORM RA,4WA",
   "4YA,3GA,3GHA,3HA,3JA,3KA,3KHA,3KSSA,3LA,3MA,3NA,3NGA,3NNA,3NYA,3PA,3PHA,3RA,3SA,3SHA,3SSA,3TA",
   "3THA,3TSA,3TSHA,3TTA,3TTHA,3WA,3YA,3ZA,3ZHA,2SIGN INVERTED MCHU CAN,3LCE TSA CAN,3MCHU CAN",
   "1SYLLABLE OM,1SYMBOL DRIL BU,2NOR BU,4BZHI -KHYIL,4GSUM -KHYIL,4NYIS -KHYIL,2PADMA GDAN",
   "2PHUR PA,2RDO RJE,4RGYA GRAM,1VOWEL SIGN AA,3E,3EE,3I,3II,3O,3OO,3REVERSED I,4II,3U,3UU",
   "3VOCALIC L,4LL,4R,4RR,0TICKET,0TIE OVER INFINITY,0TIFINAGH CONSONANT JOINER",
   "1LETTER AHAGGAR YAZH,2AYER YAGH,2BERBER ACADEMY YAH,4YAJ,2TAWELLEMET YAZ,2TUAREG YAGH,3YAGN",
   "3YAH,3YAK,3YAKH,3YANG,3YAQ,3YAZH,2YA,2YAA,2YAB,2YABH,2YACH,2YAD,2YADD,2YADDH,2YADH,2YAF,2YAG",
   "2YAGH,2YAGHH,2YAH,2YAHH,2YAJ,2YAK,2YAKH,2YAKHH,2YAL,2YAM,2YAN,2YAP,2YAQ,2YAR,2YARR,2YAS,2YASH",
   "2YASS,2YAT,2YATH,2YATT,2YAV,2YAW,2YAY,2YAZ,2YAZH,2YAZZ,2YE,2YEY,2YI,2YO,2YU",
   "1MODIFIER LETTER LABIALIZATION MARK,1SEPARATOR MARK,0TIGER,1FACE,0TIGHT TRIFOLIATE SNOWFLAKE",
   "0TILDE,1OPERATOR,2ABOVE LEFTWARDS ARROW,3RIGHTWARDS ARROW,2WITH DOT ABOVE,3RISING DOTS",
   "1WITH DOT ABOVE,3BELOW,2RING ABOVE,0TIMER CLOCK,0TIMES WITH LEFT HALF BLACK,2RIGHT HALF BLACK",
   "0TINY,1TWO DOTS OVER ONE DOT PUNCTUATION,0TIRED FACE,0TIRHUTA ABBREVIATION SIGN,1ANJI",
   "1DIGIT EIGHT,2FIVE,2FOUR,2NINE,2ONE,2SEVEN,2SIX,2THREE,2TWO,2ZERO,1GVANG,1LETTER A,2AA,2AI,2AU",
   "2BA,2BHA,2CA,2CHA,2DA,2DDA,2DDHA,2DHA,2E,2GA,2GHA,2HA,2I,2II,2JA,2JHA,2KA,2KHA,2LA,2MA,2NA",
   "2NGA,2NNA,2NYA,2O,2PA,2PHA,2RA,2SA,2SHA,2SSA,2TA,2THA,2TTA,2TTHA,2U,2UU,2VA,2VOCALIC L,3LL,3R",
   "3RR,2YA,1OM,1SIGN ANUSVARA,2AVAGRAHA,2CANDRABINDU,2NUKTA,2VIRAMA,2VISARGA,1VOWEL SIGN AA,3AI",
   "3AU,3E,3I,3II,3O,3SHORT E,4O,3U,3UU,3VOCALIC L,4LL,4R,4RR,0TIRONIAN SIGN CAPITAL ET,2ET",
   "0TOILET,0TOKYO TOWER,0TOMATO,0TONGUE,0TOOLBOX,0TOOTH,0TOOTHBRUSH,0TOP ARC ANTICLOCKWISE ARROW",
   "4WITH PLUS,2CLOCKWISE ARROW WITH MINUS,1CURLY BRACKET,1HALF BLACK CIRCLE,2INTEGRAL",
   "2LEFT PARENTHESIS,2RIGHT PARENTHESIS,2SECTION SIGN,1HAT,1LEFT CORNER,2CROP,2HALF BRACKET",
   "1PARENTHESIS,1RIGHT CORNER,2CROP,2HALF BRACKET,1SQUARE BRACKET,1TORTOISE SHELL BRACKET",
   "1WITH UPWARDS ARROW ABOVE,0TORTOISE SHELL BRACKETED CJK UNIFIED IDEOGRAPH-4E09,5IDEOGRAPH-4E8C",
   "5IDEOGRAPH-52DD,5IDEOGRAPH-5B89,5IDEOGRAPH-6253,5IDEOGRAPH-6557,5IDEOGRAPH-672C",
   "5IDEOGRAPH-70B9,5IDEOGRAPH-76D7,3LATIN CAPITAL LETTER S,0TOTAL RUNOUT,0TOTO LETTER A,2AE,2BA",
   "2BREATHY AE,3E,3EO,3I,3IU,2CHA,2DA,2E,2EO,2GA,2HA,2I,2IU,2JA,2KA,2LA,2MA,2NA,2NGA,2O,2PA,2RA",
   "2SA,2TA,2U,2WA,2YA,1SIGN RISING TONE,0TRACKBALL,0TRACTOR,0TRADE MARK SIGN,0TRAIN,0TRAM,1CAR",
   "0TRANSPLUTO,0TRANSVERSAL INTERSECTION,0TRIANGLE WITH DOT ABOVE,2ROUNDED CORNERS",
   "2SERIFS AT BOTTOM,2UNDERBAR,0TRIANGLE-HEADED RIGHTWARDS ARROW,0TRIANGULAR BULLET,1FLAG ON POST",
   "1RULER,0TRICOLON,0TRIDENT EMBLEM,0TRIGRAM FOR EARTH,2FIRE,2HEAVEN,2LAKE,2MOUNTAIN,2THUNDER",
   "2WATER,2WIND,0TRIPLE COLON OPERATOR,1DAGGER,1HORIZONTAL BAR WITH DOUBLE VERTICAL STROKE",
   "4TRIPLE VERTICAL STROKE,1INTEGRAL,1NESTED GREATER-THAN,2LESS-THAN,1PLUS,1PRIME",
   "1SOLIDUS BINARY RELATION,1TILDE,1VERTICAL BAR BINARY RELATION,3DELIMITER,3RIGHT TURNSTILE",
   "3WITH HORIZONTAL STROKE,0TROLL,0TROLLEYBUS,0TROPHY,0TROPICAL DRINK,1FISH,0TRUE",
   "1LIGHT MOON ARTA,0TRUMPET,0TUGRIK SIGN,0TULIP,0TUMBLER GLASS,0TURKEY,0TURKISH LIRA SIGN",
   "0TURNED AMPERSAND,1ANGLE,1BLACK PENTAGON,2SHOGI PIECE,1CAPITAL F,1COMMA,1DAGGER,1DIGIT THREE",
   "2TWO,1GREEK SMALL LETTER IOTA,1NORTH EAST POINTING LEAF,2WEST POINTING LEAF,1NOT SIGN",
   "1OK HAND SIGN,1SANS-SERIF CAPITAL G,3L,3Y,1SEMICOLON,1SMALL F,1SOUTH EAST POINTING LEAF",
   "2WEST POINTING LEAF,1WHITE SHOGI PIECE,0TURTLE,0TWELVE POINTED BLACK STAR",
   "0TWISTED RIGHTWARDS ARROWS,0TWO ASTERISKS ALIGNED VERTICALLY,1BUTTON MOUSE",
   "1CONSECUTIVE EQUALS SIGNS,1DOT LEADER,2PUNCTUATION,1DOTS OVER ONE DOT PUNCTUATION,1HEARTS",
   "1INTERSECTING LOGICAL AND,3OR,1JOINED SQUARES,1LOGICAL AND OPERATOR,2OR OPERATOR",
   "1MEN HOLDING HANDS,1SPEECH BUBBLES,1WOMEN HOLDING HANDS,0TWO-EM DASH,0UGARITIC LETTER AIN",
   "2ALPA,2BETA,2DELTA,2DHAL,2GAMLA,2GHAIN,2HO,2HOTA,2I,2KAF,2KHA,2LAMDA,2MEM,2NUN,2PU,2QOPA",
   "2RASHA,2SADE,2SAMKA,2SHIN,2SSU,2TET,2THANNA,2TO,2U,2WO,2YOD,2ZETA,2ZU,1WORD DIVIDER,0UMBRELLA",
   "1ON GROUND,1WITH RAIN DROPS,0UNAMUSED FACE,0UNCERTAINTY SIGN,0UNDERTIE,0UNDO SYMBOL",
   "0UNICORN FACE,0UNION,1ABOVE BAR ABOVE INTERSECTION,2INTERSECTION,1BESIDE AND JOINED WITH UNION",
   "1WITH LOGICAL OR,2MINUS SIGN,2OVERBAR,0UNIT SEPARATOR,0UNITED SYMBOL",
   "0UNIVERSAL RECYCLING SYMBOL,0UNMARRIED PARTNERSHIP SYMBOL,0UP ARROW THROUGH CIRCLE,1ARROWHEAD",
   "2BETWEEN TWO HORIZONTAL BARS,2IN A RECTANGLE BOX,1BARB LEFT DOWN BARB LEFT HARPOON",
   "5RIGHT HARPOON,2RIGHT DOWN BARB LEFT HARPOON,5RIGHT HARPOON,1DOWN ARROW,3WITH BASE",
   "2BLACK ARROW,2DOUBLE ARROW,2SANS-SERIF ARROW,2TRIANGLE-HEADED ARROW,2WHITE ARROW,1FISH TAIL",
   "1RIGHT DIAGONAL ELLIPSIS,1TACK,2WITH CIRCLE ABOVE,0UP-POINTING AIRPLANE,1MILITARY AIRPLANE",
   "1RED TRIANGLE,1SMALL AIRPLANE,2RED TRIANGLE,1TRIANGLE WITH LEFT HALF BLACK,3RIGHT HALF BLACK",
   "0UPPER AND LEFT AND LOWER TRIANGULAR THREE QUARTERS BLOCK,2LOWER ONE EIGHTH BLOCK",
   "3TRIANGULAR HALF BLOCK,2RIGHT AND LOWER TRIANGULAR THREE QUARTERS BLOCK,1BLADE SCISSORS",
   "1FIVE EIGHTHS BLOCK,1HALF BLOCK,3AND LOWER HALF INVERSE MEDIUM SHADE,2CIRCLE",
   "2INVERSE MEDIUM SHADE AND LOWER HALF BLOCK,3WHITE CIRCLE,2MEDIUM SHADE",
   "1LEFT BLOCK DIAGONAL LOWER CENTRE TO LOWER MIDDLE RIGHT,7UPPER MIDDLE RIGHT,8RIGHT",
   "5LEFT TO LOWER MIDDLE RIGHT,7UPPER CENTRE,8MIDDLE RIGHT,5MIDDLE LEFT TO UPPER CENTRE",
   "9MIDDLE RIGHT,9RIGHT,4UPPER MIDDLE LEFT TO UPPER CENTRE,9RIGHT,2CORNER WITH DOT",
   "2OR LOWER RIGHT CURLY BRACKET SECTION,2QUADRANT CIRCULAR ARC,2TO LOWER RIGHT FILL,2TRIANGLE",
   "2TRIANGULAR MEDIUM SHADE,1ONE EIGHTH BLOCK,2QUARTER BLOCK",
   "1RIGHT BLOCK DIAGONAL LOWER MIDDLE LEFT TO LOWER CENTRE,9RIGHT",
   "4UPPER CENTRE TO LOWER MIDDLE RIGHT,8RIGHT,7UPPER MIDDLE RIGHT,5LEFT TO LOWER CENTRE",
   "8MIDDLE RIGHT,7UPPER MIDDLE RIGHT,5MIDDLE LEFT TO LOWER CENTRE,9MIDDLE RIGHT,9RIGHT",
   "2DROP-SHADOWED WHITE SQUARE,2OR LOWER LEFT CURLY BRACKET SECTION,2PENCIL",
   "2QUADRANT CIRCULAR ARC,2SHADOWED WHITE CIRCLE,4SQUARE,2TO LOWER LEFT FILL,2TRIANGLE",
   "2TRIANGULAR MEDIUM SHADE,1SEVEN EIGHTHS BLOCK,1THREE EIGHTHS BLOCK,2QUARTERS BLOCK",
   "1TRIANGULAR ONE QUARTER BLOCK,0UPSIDE-DOWN FACE,0UPWARDS ANCORA,1ARROW",
   "2AND RIGHT ONE EIGHTH BLOCK,2FROM BAR,2LEFTWARDS OF DOWNWARDS ARROW,2TO BAR",
   "2WITH DOUBLE STROKE,3EQUILATERAL ARROWHEAD,3HORIZONTAL STROKE,3LARGE TRIANGLE ARROWHEAD",
   "3MEDIUM TRIANGLE ARROWHEAD,3NOTCHED TAIL,3SMALL EQUILATERAL ARROWHEAD,4TRIANGLE ARROWHEAD",
   "3TIP LEFTWARDS,4RIGHTWARDS,1BLACK ARROW,2CIRCLED WHITE ARROW,1COMPRESSED ARROW,1DASHED ARROW",
   "1DOUBLE ARROW,1FINGER-POST ARROW",
   "1HARPOON WITH BARB LEFT BESIDE DOWNWARDS HARPOON WITH BARB RIGHT",
   "6UPWARDS HARPOON WITH BARB RIGHT,5FROM BAR,5TO BAR,4LEFTWARDS,4RIGHT FROM BAR,5TO BAR",
   "4RIGHTWARDS,1HEAVY ARROW,2COMPRESSED ARROW,1PAIRED ARROWS,1QUADRUPLE ARROW,1ROCKET",
   "1SANS-SERIF ARROW,1SQUARED ARROW,1TRIANGLE ARROWHEAD,1TRIANGLE-HEADED ARROW",
   "3LEFTWARDS OF DOWNWARDS TRIANGLE-HEADED ARROW,3TO BAR,3WITH BOLD SHAFT",
   "4DOUBLE HORIZONTAL STROKE,4HEAVY SHAFT,4LONG TIP LEFTWARDS,6RIGHTWARDS,4MEDIUM SHAFT",
   "4NARROW SHAFT,4VERY HEAVY SHAFT,2DASHED ARROW,2PAIRED ARROWS,1TRIPLE ARROW,1TWO HEADED ARROW",
   "1TWO-HEADED ARROW FROM SMALL CIRCLE,3WITH TRIANGLE ARROWHEADS,1WHITE ARROW,3FROM BAR",
   "5WITH HORIZONTAL BAR,3ON PEDESTAL,5WITH HORIZONTAL BAR,6VERTICAL BAR",
   "3WITHIN TRIANGLE ARROWHEAD,2DOUBLE ARROW,4ON PEDESTAL,0URANUS,0US,0VAI COMMA,1DIGIT EIGHT",
   "2FIVE,2FOUR,2NINE,2ONE,2SEVEN,2SIX,2THREE,2TWO,2ZERO,1FULL STOP,1QUESTION MARK,1SYLLABLE A,2AN",
   "2BA,2BE,2BEE,2BHA,2BHE,2BHEE,2BHI,2BHO,2BHOO,2BHU,2BI,2BO,2BOO,2BU,2CA,2CE,2CEE,2CI,2CO,2COO",
   "2CU,2DA,2DE,2DEE,2DHA,2DHE,2DHEE,2DHHA,2DHHE,2DHHEE,2DHHI,2DHHO,2DHHOO,2DHHU,2DHI,2DHO,2DHOO",
   "2DHU,2DI,2DO,2DOO,2DU,2E,2EE,2EEN,2EN,2FA,2FE,2FEE,2FI,2FO,2FOO,2FU,2GA,2GBA,2GBE,2GBEE,2GBEN",
   "2GBI,2GBO,2GBON,2GBOO,2GBU,2GE,2GEE,2GEN,2GI,2GO,2GOO,2GU,2HA,2HAN,2HE,2HEE,2HEN,2HI,2HIN,2HO",
   "2HON,2HOO,2HU,2HUN,2I,2IN,2JA,2JE,2JEE,2JI,2JO,2JOO,2JU,2KA,2KAN,2KE,2KEE,2KI,2KO,2KOO,2KPA",
   "2KPAN,2KPE,2KPEE,2KPEN,2KPI,2KPO,2KPOO,2KPU,2KU,2LA,2LE,2LEE,2LENGTHENER,2LI,2LO,2LOO,2LU,2MA",
   "2MBA,2MBE,2MBEE,2MBI,2MBO,2MBOO,2MBU,2ME,2MEE,2MGBA,2MGBE,2MGBEE,2MGBI,2MGBO,2MGBOO,2MGBU,2MI",
   "2MO,2MOO,2MU,2NA,2NDA,2NDE,2NDEE,2NDI,2NDO,2NDOLE DO,3FA,3KA,3MA,3SOO,2NDOO,2NDU,2NE,2NEE,2NG",
   "2NGAN,2NGEN,2NGGA,2NGGE,2NGGEE,2NGGEN,2NGGI,2NGGO,2NGGOO,2NGGU,2NGON,2NI,2NJA,2NJE,2NJEE,2NJI",
   "2NJO,2NJOO,2NJU,2NO,2NOO,2NU,2NYA,2NYE,2NYEE,2NYI,2NYO,2NYOO,2NYU,2O,2ON,2OO,2OON,2PA,2PE,2PEE",
   "2PI,2PO,2POO,2PU,2RA,2RE,2REE,2RI,2RO,2ROO,2RU,2SA,2SE,2SEE,2SHA,2SHE,2SHEE,2SHI,2SHO,2SHOO",
   "2SHU,2SI,2SO,2SOO,2SU,2TA,2TE,2TEE,2THA,2THE,2THEE,2THI,2THO,2THOO,2THU,2TI,2TO,2TOO,2TU,2U",
   "2UN,2VA,2VE,2VEE,2VI,2VO,2VOO,2VU,2WA,2WAN,2WE,2WEE,2WEEN,2WEN,2WI,2WIN,2WO,2WON,2WOO,2WOON",
   "2WU,2WUN,2YA,2YE,2YEE,2YI,2YO,2YOO,2YU,2ZA,2ZE,2ZEE,2ZHA,2ZHE,2ZHEE,2ZHI,2ZHO,2ZHOO,2ZHU,2ZI",
   "2ZO,2ZOO,2ZU,1SYMBOL BANG,2DANG,2DO-O,2DOONG,2FAA,2FEENG,2JONG,2KEENG,2KUNG,2NII,2TAA,2TING",
   "2TONG,0VAMPIRE,0VARIATION SELECTOR-1,1SELECTOR-10,1SELECTOR-100,1SELECTOR-101,1SELECTOR-102",
   "1SELECTOR-103,1SELECTOR-104,1SELECTOR-105,1SELECTOR-106,1SELECTOR-107,1SELECTOR-108",
   "1SELECTOR-109,1SELECTOR-11,1SELECTOR-110,1SELECTOR-111,1SELECTOR-112,1SELECTOR-113",
   "1SELECTOR-114,1SELECTOR-115,1SELECTOR-116,1SELECTOR-117,1SELECTOR-118,1SELECTOR-119",
   "1SELECTOR-12,1SELECTOR-120,1SELECTOR-121,1SELECTOR-122,1SELECTOR-123,1SELECTOR-124",
   "1SELECTOR-125,1SELECTOR-126,1SELECTOR-127,1SELECTOR-128,1SELECTOR-129,1SELECTOR-13",
   "1SELECTOR-130,1SELECTOR-131,1SELECTOR-132,1SELECTOR-133,1SELECTOR-134,1SELECTOR-135",
   "1SELECTOR-136,1SELECTOR-137,1SELECTOR-138,1SELECTOR-139,1SELECTOR-14,1SELECTOR-140",
   "1SELECTOR-141,1SELECTOR-142,1SELECTOR-143,1SELECTOR-144,1SELECTOR-145,1SELECTOR-146",
   "1SELECTOR-147,1SELECTOR-148,1SELECTOR-149,1SELECTOR-15,1SELECTOR-150,1SELECTOR-151",
   "1SELECTOR-152,1SELECTOR-153,1SELECTOR-154,1SELECTOR-155,1SELECTOR-156,1SELECTOR-157",
   "1SELECTOR-158,1SELECTOR-159,1SELECTOR-16,1SELECTOR-160,1SELECTOR-161,1SELECTOR-162",
   "1SELECTOR-163,1SELECTOR-164,1SELECTOR-165,1SELECTOR-166,1SELECTOR-167,1SELECTOR-168",
   "1SELECTOR-169,1SELECTOR-17,1SELECTOR-170,1SELECTOR-171,1SELECTOR-172,1SELECTOR-173",
   "1SELECTOR-174,1SELECTOR-175,1SELECTOR-176,1SELECTOR-177,1SELECTOR-178,1SELECTOR-179",
   "1SELECTOR-18,1SELECTOR-180,1SELECTOR-181,1SELECTOR-182,1SELECTOR-183,1SELECTOR-184",
   "1SELECTOR-185,1SELECTOR-186,1SELECTOR-187,1SELECTOR-188,1SELECTOR-189,1SELECTOR-19",
   "1SELECTOR-190,1SELECTOR-191,1SELECTOR-192,1SELECTOR-193,1SELECTOR-194,1SELECTOR-195",
   "1SELECTOR-196,1SELECTOR-197,1SELECTOR-198,1SELECTOR-199,1SELECTOR-2,1SELECTOR-20,1SELECTOR-200",
   "1SELECTOR-201,1SELECTOR-202,1SELECTOR-203,1SELECTOR-204,1SELECTOR-205,1SELECTOR-206",
   "1SELECTOR-207,1SELECTOR-208,1SELECTOR-209,1SELECTOR-21,1SELECTOR-210,1SELECTOR-211",
   "1SELECTOR-212,1SELECTOR-213,1SELECTOR-214,1SELECTOR-215,1SELECTOR-216,1SELECTOR-217",
   "1SELECTOR-218,1SELECTOR-219,1SELECTOR-22,1SELECTOR-220,1SELECTOR-221,1SELECTOR-222",
   "1SELECTOR-223,1SELECTOR-224,1SELECTOR-225,1SELECTOR-226,1SELECTOR-227,1SELECTOR-228",
   "1SELECTOR-229,1SELECTOR-23,1SELECTOR-230,1SELECTOR-231,1SELECTOR-232,1SELECTOR-233",
   "1SELECTOR-234,1SELECTOR-235,1SELECTOR-236,1SELECTOR-237,1SELECTOR-238,1SELECTOR-239",
   "1SELECTOR-24,1SELECTOR-240,1SELECTOR-241,1SELECTOR-242,1SELECTOR-243,1SELECTOR-244",
   "1SELECTOR-245,1SELECTOR-246,1SELECTOR-247,1SELECTOR-248,1SELECTOR-249,1SELECTOR-25",
   "1SELECTOR-250,1SELECTOR-251,1SELECTOR-252,1SELECTOR-253,1SELECTOR-254,1SELECTOR-255",
   "1SELECTOR-256,1SELECTOR-26,1SELECTOR-27,1SELECTOR-28,1SELECTOR-29,1SELECTOR-3,1SELECTOR-30",
   "1SELECTOR-31,1SELECTOR-32,1SELECTOR-33,1SELECTOR-34,1SELECTOR-35,1SELECTOR-36,1SELECTOR-37",
   "1SELECTOR-38,1SELECTOR-39,1SELECTOR-4,1SELECTOR-40,1SELECTOR-41,1SELECTOR-42,1SELECTOR-43",
   "1SELECTOR-44,1SELECTOR-45,1SELECTOR-46,1SELECTOR-47,1SELECTOR-48,1SELECTOR-49,1SELECTOR-5",
   "1SELECTOR-50,1SELECTOR-51,1SELECTOR-52,1SELECTOR-53,1SELECTOR-54,1SELECTOR-55,1SELECTOR-56",
   "1SELECTOR-57,1SELECTOR-58,1SELECTOR-59,1SELECTOR-6,1SELECTOR-60,1SELECTOR-61,1SELECTOR-62",
   "1SELECTOR-63,1SELECTOR-64,1SELECTOR-65,1SELECTOR-66,1SELECTOR-67,1SELECTOR-68,1SELECTOR-69",
   "1SELECTOR-7,1SELECTOR-70,1SELECTOR-71,1SELECTOR-72,1SELECTOR-73,1SELECTOR-74,1SELECTOR-75",
   "1SELECTOR-76,1SELECTOR-77,1SELECTOR-78,1SELECTOR-79,1SELECTOR-8,1SELECTOR-80,1SELECTOR-81",
   "1SELECTOR-82,1SELECTOR-83,1SELECTOR-84,1SELECTOR-85,1SELECTOR-86,1SELECTOR-87,1SELECTOR-88",
   "1SELECTOR-89,1SELECTOR-9,1SELECTOR-90,1SELECTOR-91,1SELECTOR-92,1SELECTOR-93,1SELECTOR-94",
   "1SELECTOR-95,1SELECTOR-96,1SELECTOR-97,1SELECTOR-98,1SELECTOR-99,0VECTOR OR CROSS PRODUCT",
   "0VEDIC SIGN ANUSVARA ANTARGOMUKHA,3BAHIRGOMUKHA,3UBHAYATO MUKHA,3VAMAGOMUKHA,4WITH TAIL",
   "2ARDHAVISARGA,2ATIKRAMA,2DOUBLE ANUSVARA ANTARGOMUKHA,2HEXIFORM LONG ANUSVARA,2JIHVAMULIYA",
   "2LONG ANUSVARA,2NIHSHVASA,2REVERSED VISARGA ANUDATTA,4UDATTA,2ROTATED ARDHAVISARGA",
   "2RTHANG LONG ANUSVARA,2TIRYAK,2UPADHMANIYA,2VISARGA ANUDATTA,4WITH TAIL,3SVARITA,3UDATTA",
   "4WITH TAIL,2YAJURVEDIC MIDLINE SVARITA,1TONE ATHARVAVEDIC INDEPENDENT SVARITA,2CANDRA ABOVE",
   "3BELOW,2DOT BELOW,2DOUBLE RING ABOVE,3SVARITA,2KARSHANA,2KATHAKA ANUDATTA,2PRENKHA",
   "2RIGVEDIC KASHMIRI INDEPENDENT SVARITA,2RING ABOVE,2SHARA,2THREE DOTS BELOW,2TRIPLE SVARITA",
   "2TWO DOTS BELOW,2YAJURVEDIC AGGRAVATED INDEPENDENT SVARITA,3INDEPENDENT SVARITA",
   "3KATHAKA INDEPENDENT SVARITA,6SCHROEDER,0VERSICLE,0VERTICAL BAR BESIDE RIGHT TRIANGLE",
   "2DOUBLE LEFT TURNSTILE,2TRIPLE RIGHT TURNSTILE,2WITH HORIZONTAL STROKE,1ELLIPSIS,1FOUR DOTS",
   "1IDEOGRAPHIC ITERATION MARK,1KANA REPEAT MARK,4LOWER HALF,4UPPER HALF,3WITH VOICED SOUND MARK",
   "7UPPER HALF,1LINE,2EXTENSION,2WITH CIRCLE ABOVE,4BELOW,3MIDDLE DOT,1MALE WITH STROKE SIGN",
   "1ONE EIGHTH BLOCK-2,3BLOCK-3,3BLOCK-4,3BLOCK-5,3BLOCK-6,3BLOCK-7,1SIX DOTS,1TAB KEY",
   "1TABULATION,2SET,1TILDE,1TRAFFIC LIGHT,1ZIGZAG LINE,0VERY BOLD GREEK CROSS",
   "1HEAVY EIGHT POINTED BLACK STAR,3SPOKED ASTERISK,2FIVE SPOKED ASTERISK,2GREEK CROSS",
   "2REVERSE SOLIDUS,2SALTIRE,2SIX SPOKED ASTERISK,2SOLIDUS,2WHITE CIRCLE,3SQUARE",
   "1MUCH GREATER-THAN,2LESS-THAN,0VESTA,0VIBRATION MODE,0VICTORY HAND,0VIDEO CAMERA,1GAME",
   "0VIDEOCASSETTE,0VIETNAMESE ALTERNATE READING MARK CA,4NHAY,0VIEWDATA SQUARE,0VIOLIN,0VIRGO",
   "0VITHKUQI CAPITAL LETTER A,3BBE,3BE,3CE,3CHE,3DE,3DHE,3E,3EI,3FE,3GA,3HA,3HHA,3I,3IJE,3JE,3KA",
   "3LA,3LLA,3ME,3NE,3NJE,3O,3PE,3QA,3RE,3SE,3SHE,3TE,3THE,3U,3VE,3XE,3Y,3ZE,1SMALL LETTER A,3BBE",
   "3BE,3CE,3CHE,3DE,3DHE,3E,3EI,3FE,3GA,3HA,3HHA,3I,3IJE,3JE,3KA,3LA,3LLA,3ME,3NE,3NJE,3O,3PE,3QA",
   "3RE,3SE,3SHE,3TE,3THE,3U,3VE,3XE,3Y,3ZE,0VOIDED GREEK CROSS,0VOLCANO,0VOLLEYBALL",
   "0VOLUME INTEGRAL,0VS1,0VS10,0VS100,0VS101,0VS102,0VS103,0VS104,0VS105,0VS106,0VS107,0VS108",
   "0VS109,0VS11,0VS110,0VS111,0VS112,0VS113,0VS114,0VS115,0VS116,0VS117,0VS118,0VS119,0VS12",
   "0VS120,0VS121,0VS122,0VS123,0VS124,0VS125,0VS126,0VS127,0VS128,0VS129,0VS13,0VS130,0VS131",
   "0VS132,0VS133,0VS134,0VS135,0VS136,0VS137,0VS138,0VS139,0VS14,0VS140,0VS141,0VS142,0VS143",
   "0VS144,0VS145,0VS146,0VS147,0VS148,0VS149,0VS15,0VS150,0VS151,0VS152,0VS153,0VS154,0VS155",
   "0VS156,0VS157,0VS158,0VS159,0VS16,0VS160,0VS161,0VS162,0VS163,0VS164,0VS165,0VS166,0VS167",
   "0VS168,0VS169,0VS17,0VS170,0VS171,0VS172,0VS173,0VS174,0VS175,0VS176,0VS177,0VS178,0VS179",
   "0VS18,0VS180,0VS181,0VS182,0VS183,0VS184,0VS185,0VS186,0VS187,0VS188,0VS189,0VS19,0VS190",
   "0VS191,0VS192,0VS193,0VS194,0VS195,0VS196,0VS197,0VS198,0VS199,0VS2,0VS20,0VS200,0VS201,0VS202",
   "0VS203,0VS204,0VS205,0VS206,0VS207,0VS208,0VS209,0VS21,0VS210,0VS211,0VS212,0VS213,0VS214",
   "0VS215,0VS216,0VS217,0VS218,0VS219,0VS22,0VS220,0VS221,0VS222,0VS223,0VS224,0VS225,0VS226",
   "0VS227,0VS228,0VS229,0VS23,0VS230,0VS231,0VS232,0VS233,0VS234,0VS235,0VS236,0VS237,0VS238",
   "0VS239,0VS24,0VS240,0VS241,0VS242,0VS243,0VS244,0VS245,0VS246,0VS247,0VS248,0VS249,0VS25",
   "0VS250,0VS251,0VS252,0VS253,0VS254,0VS255,0VS256,0VS26,0VS27,0VS28,0VS29,0VS3,0VS30,0VS31",
   "0VS32,0VS33,0VS34,0VS35,0VS36,0VS37,0VS38,0VS39,0VS4,0VS40,0VS41,0VS42,0VS43,0VS44,0VS45,0VS46",
   "0VS47,0VS48,0VS49,0VS5,0VS50,0VS51,0VS52,0VS53,0VS54,0VS55,0VS56,0VS57,0VS58,0VS59,0VS6,0VS60",
   "0VS61,0VS62,0VS63,0VS64,0VS65,0VS66,0VS67,0VS68,0VS69,0VS7,0VS70,0VS71,0VS72,0VS73,0VS74,0VS75",
   "0VS76,0VS77,0VS78,0VS79,0VS8,0VS80,0VS81,0VS82,0VS83,0VS84,0VS85,0VS86,0VS87,0VS88,0VS89,0VS9",
   "0VS90,0VS91,0VS92,0VS93,0VS94,0VS95,0VS96,0VS97,0VS98,0VS99,0VT,0VTS,0VULCANUS",
   "0VULGAR FRACTION FIVE EIGHTHS,3SIXTHS,2FOUR FIFTHS,2ONE EIGHTH,3FIFTH,3HALF,3NINTH,3QUARTER",
   "3SEVENTH,3SIXTH,3TENTH,3THIRD,2SEVEN EIGHTHS,2THREE EIGHTHS,3FIFTHS,3QUARTERS,2TWO FIFTHS",
   "3THIRDS,2ZERO THIRDS,0WAFFLE,0WANCHO DIGIT EIGHT,2FIVE,2FOUR,2NINE,2ONE,2SEVEN,2SIX,2THREE",
   "2TWO,2ZERO,1LETTER A,2AA,2AAN,2AANG,2ANG,2AU,2BA,2CA,2DA,2E,2EN,2FA,2GA,2HA,2I,2ING,2JA,2KA",
   "2KHA,2LA,2LLHA,2MA,2NA,2NGA,2NYA,2O,2ON,2ONG,2PA,2PHA,2RA,2SA,2SHA,2TA,2THA,2TRA,2TSA,2U,2UEN",
   "2VA,2WA,2YA,2YIH,2ZA,1NGUN SIGN,1TONE KOI,2KOINI,2TUP,2TUPNI,0WANING CRESCENT MOON SYMBOL",
   "1GIBBOUS MOON SYMBOL,0WARANG CITI CAPITAL LETTER A,4AM,4ANG,4AT,4BU,4DA,4E,4ENN,4ENY,4GA,4HAR",
   "4HIYO,4HOLO,4HORR,4II,4KO,4NGAA,4NUNG,4O,4ODD,4PU,4SII,4SSUU,4TTE,4UC,4UU,4VIYO,4WI,4YA,4YO",
   "4YU,4YUJ,2DIGIT EIGHT,3FIVE,3FOUR,3NINE,3ONE,3SEVEN,3SIX,3THREE,3TWO,3ZERO,2NUMBER EIGHTY",
   "3FIFTY,3FORTY,3NINETY,3SEVENTY,3SIXTY,3TEN,3THIRTY,3TWENTY,2OM,2SMALL LETTER A,4AM,4ANG,4AT",
   "4BU,4DA,4E,4ENN,4ENY,4GA,4HAR,4HIYO,4HOLO,4HORR,4II,4KO,4NGAA,4NUNG,4O,4ODD,4PU,4SII,4SSUU",
   "4TTE,4UC,4UU,4VIYO,4WI,4YA,4YO,4YU,4YUJ,0WARNING SIGN,0WASTEBASKET,0WATCH,0WATER BUFFALO",
   "1CLOSET,1POLO,1WAVE,0WATERMELON,0WAVE ARROW POINTING DIRECTLY LEFT,4RIGHT,1DASH",
   "0WAVING BLACK FLAG,1HAND SIGN,1WHITE FLAG,0WAVY DASH,1LINE,1LOW LINE,1OVERLINE",
   "0WAXING CRESCENT MOON SYMBOL,1GIBBOUS MOON SYMBOL,0WEARY CAT FACE,1FACE,0WEDDING",
   "0WEDGE-TAILED RIGHTWARDS ARROW,0WEIERSTRASS ELLIPTIC FUNCTION,0WEIGHT LIFTER",
   "0WEST SYRIAC CROSS,0WHALE,0WHEEL,1OF DHARMA,0WHEELCHAIR SYMBOL,0WHITE ARROW SHAFT WIDTH ONE",
   "4TWO THIRDS,1BULLET,1CHESS BISHOP,3ROTATED NINETY DEGREES,4TWO HUNDRED SEVENTY DEGREES",
   "2EQUIHOPPER,3ROTATED NINETY DEGREES,2KING,3ROTATED NINETY DEGREES,4TWO HUNDRED SEVENTY DEGREES",
   "2KNIGHT,3ROTATED FORTY-FIVE DEGREES,4NINETY DEGREES,4ONE HUNDRED THIRTY-FIVE DEGREES",
   "4THREE HUNDRED FIFTEEN DEGREES,4TWO HUNDRED SEVENTY DEGREES,6TWENTY-FIVE DEGREES",
   "2KNIGHT-BISHOP,2KNIGHT-QUEEN,2KNIGHT-ROOK,2PAWN,3ROTATED NINETY DEGREES",
   "4TWO HUNDRED SEVENTY DEGREES,2QUEEN,3ROTATED NINETY DEGREES,4TWO HUNDRED SEVENTY DEGREES,2ROOK",
   "3ROTATED NINETY DEGREES,4TWO HUNDRED SEVENTY DEGREES,2TURNED BISHOP,3KING,3KNIGHT,3PAWN,3QUEEN",
   "3ROOK,1CIRCLE,2CONTAINING BLACK SMALL CIRCLE,2WITH DOT RIGHT,3DOWN ARROW,3LOWER LEFT QUADRANT",
   "4RIGHT QUADRANT,3TWO DOTS,3UPPER LEFT QUADRANT,4RIGHT QUADRANT,1CLUB SUIT",
   "1CONCAVE-SIDED DIAMOND,3WITH LEFTWARDS TICK,4RIGHTWARDS TICK,1DIAMOND",
   "2CONTAINING BLACK MEDIUM DIAMOND,4SMALL DIAMOND,4VERY SMALL DIAMOND,2IN SQUARE,2SUIT",
   "2WITH CENTRED DOT,1DOWN POINTING BACKHAND INDEX,3INDEX,3LEFT HAND INDEX",
   "1DOWN-POINTING SMALL TRIANGLE,2TRIANGLE,1DRAUGHTS KING,2MAN,1EXCLAMATION MARK ORNAMENT,1FLAG",
   "2WITH HORIZONTAL MIDDLE BLACK STRIPE,1FLORETTE,1FLOWER,1FOUR POINTED CUSP,3STAR,1FROWNING FACE",
   "1HARD SHELL FLOPPY DISK,1HEART,2SUIT,1HEAVY CHECK MARK,2SALTIRE WITH ROUNDED CORNERS,1HEXAGON",
   "1HORIZONTAL ELLIPSE,1HOURGLASS,1LARGE SQUARE,1LATIN CROSS,1LEFT LANE MERGE",
   "2POINTING BACKHAND INDEX,3INDEX,1LEFT-POINTING POINTER,2SMALL TRIANGLE,2TRIANGLE",
   "1LOZENGE CONTAINING BLACK SMALL LOZENGE,1MEDIUM DIAMOND,2LOZENGE,2SMALL SQUARE,2SQUARE,2STAR",
   "1MOON SELENA,1NIB,1PARALLELOGRAM,1PENNANT,1PENTAGON,1QUESTION MARK ORNAMENT,1RECTANGLE",
   "1RIGHT POINTING BACKHAND INDEX,3INDEX,1RIGHT-POINTING PENTAGON,2POINTER,2SMALL TRIANGLE",
   "2TRIANGLE,1SCISSORS,1SESAME DOT,1SHOGI PIECE,1SMALL LOZENGE,2SQUARE,2STAR,1SMILING FACE",
   "1SPADE SUIT,1SQUARE,2BUTTON,2CONTAINING BLACK MEDIUM SQUARE,4SMALL SQUARE,4VERY SMALL SQUARE",
   "2WITH CENTRE VERTICAL LINE,3LEFTWARDS TICK,3LOWER LEFT QUADRANT,4RIGHT QUADRANT",
   "3RIGHTWARDS TICK,3ROUNDED CORNERS,3UPPER LEFT QUADRANT,4RIGHT QUADRANT",
   "3VERTICAL BISECTING LINE,1STAR,1SUN,2BEHIND CLOUD,4WITH RAIN,2WITH RAYS,3SMALL CLOUD",
   "1TELEPHONE,1TOUCHTONE TELEPHONE,1TRAPEZIUM,1TRIANGLE CONTAINING SMALL WHITE TRIANGLE",
   "1TWO-WAY LEFT WAY TRAFFIC,1UP POINTING BACKHAND INDEX,3INDEX,1UP-POINTING CHEVRON",
   "2SMALL TRIANGLE,2TRIANGLE,3WITH DOT,1VERTICAL BAR,2ELLIPSE,2RECTANGLE,1VERY SMALL SQUARE",
   "0WHITE-FEATHERED RIGHTWARDS ARROW,0WIDE-HEADED DOWNWARDS BARB ARROW,2HEAVY BARB ARROW",
   "2LIGHT BARB ARROW,2MEDIUM BARB ARROW,2VERY HEAVY BARB ARROW,1LEFTWARDS BARB ARROW",
   "2HEAVY BARB ARROW,2LIGHT BARB ARROW,2MEDIUM BARB ARROW,2VERY HEAVY BARB ARROW",
   "1NORTH EAST BARB ARROW,3HEAVY BARB ARROW,3LIGHT BARB ARROW,3MEDIUM BARB ARROW",
   "3VERY HEAVY BARB ARROW,2WEST BARB ARROW,3HEAVY BARB ARROW,3LIGHT BARB ARROW,3MEDIUM BARB ARROW",
   "3VERY HEAVY BARB ARROW,1RIGHTWARDS BARB ARROW,2HEAVY BARB ARROW,2LIGHT BARB ARROW",
   "2MEDIUM BARB ARROW,2VERY HEAVY BARB ARROW,1SOUTH EAST BARB ARROW,3HEAVY BARB ARROW",
   "3LIGHT BARB ARROW,3MEDIUM BARB ARROW,3VERY HEAVY BARB ARROW,2WEST BARB ARROW,3HEAVY BARB ARROW",
   "3LIGHT BARB ARROW,3MEDIUM BARB ARROW,3VERY HEAVY BARB ARROW,1UPWARDS BARB ARROW",
   "2HEAVY BARB ARROW,2LIGHT BARB ARROW,2MEDIUM BARB ARROW,2VERY HEAVY BARB ARROW",
   "0WIGGLY VERTICAL LINE,0WILTED FLOWER,0WIND BLOWING FACE,1CHIME,0WINDOW,0WINE GLASS",
   "0WINKING FACE,0WIRED KEYBOARD,0WJ,0WOLF FACE,0WOMAN,1WITH BUNNY EARS,0WOMANS BOOTS,1CLOTHES",
   "1HAT,1SANDAL,0WOMENS SYMBOL,0WON SIGN,0WOOD,0WORD JOINER,1SEPARATOR MIDDLE DOT,0WORLD MAP",
   "0WORM,0WORRIED FACE,0WRAPPED PRESENT,0WREATH PRODUCT,0WRENCH,0WRESTLERS,0WRITING HAND",
   "0X IN A RECTANGLE BOX,0X-RAY,0XIANGQI BLACK CANNON,2CHARIOT,2ELEPHANT,2GENERAL,2HORSE",
   "2MANDARIN,2SOLDIER,1RED CANNON,2CHARIOT,2ELEPHANT,2GENERAL,2HORSE,2MANDARIN,2SOLDIER,0XOR",
   "0YAWNING FACE,0YELLOW HEART,0YEN SIGN,0YEZIDI COMBINING HAMZA MARK,2MADDA MARK",
   "1HYPHENATION MARK,1LETTER BE,2CHHIM,2CHIM,2CIM,2DAD,2DAL,2ELIF,2ET,2EW,2EYN,2FA,2GAF,2HAY,2HHA",
   "2JA,2KAF,2KHAF,2LAM,3WITH DOT ABOVE,2MIM,2NUN,2OW,2PE,2PHE,2QAF,2RA,2RHA,2SAD,2SE,2SHIN,2SIN",
   "2TA,2THE,2UM,2VA,3ALTERNATE FORM,2WAW,2XA,2XHEYN,2YOT,3WITH CIRCUMFLEX ABOVE,2ZA,2ZAL,2ZE",
   "0YI RADICAL BBUT,2BUR,2CHE,2CIP,2CUOP,2CY,2CYP,2CYT,2DDUR,2DU,2GA,2GEP,2GGOP,2GGUO,2GOT,2HMO",
   "2HXIT,2HXOP,2HXUO,2JJIE,2JJUT,2JJY,2JO,2KE,2KIT,2LI,2LIE,2LYR,2MI,2MOP,2NBIE,2NYIP,2NYOP,2NZUP",
   "2OP,2PUT,2PYT,2QOT,2SHAT,2SHOP,2SHUR,2SHY,2SSI,2TAT,2TU,2VEP,2VUR,2WO,2YIT,2YO,2ZA,2ZOT,2ZUP",
   "2ZUR,2ZZIET,1SYLLABLE A,2AP,2AT,2AX,2BA,2BAP,2BAT,2BAX,2BBA,2BBAP,2BBAT,2BBAX,2BBE,2BBEP,2BBEX",
   "2BBI,2BBIE,2BBIEP,2BBIET,2BBIEX,2BBIP,2BBIT,2BBIX,2BBO,2BBOP,2BBOT,2BBOX,2BBU,2BBUO,2BBUOP",
   "2BBUOX,2BBUP,2BBUR,2BBURX,2BBUT,2BBUX,2BBY,2BBYP,2BBYT,2BBYX,2BE,2BEP,2BEX,2BI,2BIE,2BIEP",
   "2BIET,2BIEX,2BIP,2BIT,2BIX,2BO,2BOP,2BOT,2BOX,2BU,2BUO,2BUOP,2BUOX,2BUP,2BUR,2BURX,2BUT,2BUX",
   "2BY,2BYP,2BYR,2BYRX,2BYT,2BYX,2CA,2CAP,2CAT,2CAX,2CE,2CEP,2CEX,2CHA,2CHAP,2CHAT,2CHAX,2CHE",
   "2CHEP,2CHET,2CHEX,2CHO,2CHOP,2CHOT,2CHOX,2CHU,2CHUO,2CHUOP,2CHUOT,2CHUOX,2CHUP,2CHUR,2CHURX",
   "2CHUX,2CHY,2CHYP,2CHYR,2CHYRX,2CHYT,2CHYX,2CI,2CIE,2CIEP,2CIET,2CIEX,2CIP,2CIT,2CIX,2CO,2COP",
   "2COT,2COX,2CU,2CUO,2CUOP,2CUOX,2CUP,2CUR,2CURX,2CUT,2CUX,2CY,2CYP,2CYR,2CYRX,2CYT,2CYX,2DA",
   "2DAP,2DAT,2DAX,2DDA,2DDAP,2DDAT,2DDAX,2DDE,2DDEP,2DDEX,2DDI,2DDIE,2DDIEP,2DDIEX,2DDIP,2DDIT",
   "2DDIX,2DDO,2DDOP,2DDOT,2DDOX,2DDU,2DDUO,2DDUOP,2DDUOX,2DDUP,2DDUR,2DDURX,2DDUT,2DDUX,2DE,2DEP",
   "2DEX,2DI,2DIE,2DIEP,2DIEX,2DIP,2DIT,2DIX,2DO,2DOP,2DOT,2DOX,2DU,2DUO,2DUOX,2DUP,2DUR,2DURX",
   "2DUT,2DUX,2E,2EX,2FA,2FAP,2FAT,2FAX,2FI,2FIP,2FIT,2FIX,2FO,2FOP,2FOX,2FU,2FUP,2FUR,2FURX,2FUT",
   "2FUX,2FY,2FYP,2FYT,2FYX,2GA,2GAP,2GAT,2GAX,2GE,2GEP,2GET,2GEX,2GGA,2GGAP,2GGAT,2GGAX,2GGE",
   "2GGEP,2GGET,2GGEX,2GGI,2GGIE,2GGIEP,2GGIEX,2GGIT,2GGIX,2GGO,2GGOP,2GGOT,2GGOX,2GGU,2GGUO",
   "2GGUOP,2GGUOT,2GGUOX,2GGUP,2GGUR,2GGURX,2GGUT,2GGUX,2GI,2GIE,2GIEP,2GIET,2GIEX,2GIP,2GIT,2GIX",
   "2GO,2GOP,2GOT,2GOX,2GU,2GUO,2GUOP,2GUOT,2GUOX,2GUP,2GUR,2GURX,2GUT,2GUX,2HA,2HAP,2HAT,2HAX,2HE",
   "2HEP,2HEX,2HIE,2HIEX,2HIT,2HLA,2HLAP,2HLAT,2HLAX,2HLE,2HLEP,2HLEX,2HLI,2HLIE,2HLIEP,2HLIEX",
   "2HLIP,2HLIT,2HLIX,2HLO,2HLOP,2HLOX,2HLU,2HLUO,2HLUOP,2HLUOX,2HLUP,2HLUR,2HLURX,2HLUT,2HLUX",
   "2HLY,2HLYP,2HLYR,2HLYRX,2HLYT,2HLYX,2HMA,2HMAP,2HMAT,2HMAX,2HMI,2HMIE,2HMIEP,2HMIEX,2HMIP",
   "2HMIT,2HMIX,2HMO,2HMOP,2HMOT,2HMOX,2HMU,2HMUO,2HMUOP,2HMUOX,2HMUP,2HMUR,2HMURX,2HMUT,2HMUX",
   "2HMY,2HMYP,2HMYR,2HMYRX,2HMYX,2HNA,2HNAP,2HNAT,2HNAX,2HNE,2HNEP,2HNEX,2HNI,2HNIE,2HNIEP,2HNIET",
   "2HNIEX,2HNIP,2HNIT,2HNIX,2HNOP,2HNOT,2HNOX,2HNUO,2HNUOX,2HNUT,2HO,2HOP,2HOT,2HOX,2HUO,2HUOP",
   "2HUOT,2HUOX,2HXA,2HXAP,2HXAT,2HXAX,2HXE,2HXEP,2HXEX,2HXI,2HXIE,2HXIEP,2HXIET,2HXIEX,2HXIP",
   "2HXIT,2HXIX,2HXO,2HXOP,2HXOT,2HXOX,2HXUO,2HXUOP,2HXUOT,2HXUOX,2I,2IE,2IEP,2IET,2IEX,2IP,2IT",
   "2ITERATION MARK,2IX,2JI,2JIE,2JIEP,2JIET,2JIEX,2JIP,2JIT,2JIX,2JJI,2JJIE,2JJIEP,2JJIET,2JJIEX",
   "2JJIP,2JJIT,2JJIX,2JJO,2JJOP,2JJOT,2JJOX,2JJU,2JJUO,2JJUOP,2JJUOX,2JJUP,2JJUR,2JJURX,2JJUT",
   "2JJUX,2JJY,2JJYP,2JJYT,2JJYX,2JO,2JOP,2JOT,2JOX,2JU,2JUO,2JUOP,2JUOT,2JUOX,2JUP,2JUR,2JURX",
   "2JUT,2JUX,2JY,2JYP,2JYR,2JYRX,2JYT,2JYX,2KA,2KAP,2KAT,2KAX,2KE,2KEP,2KET,2KEX,2KI,2KIE,2KIEP",
   "2KIEX,2KIP,2KIT,2KIX,2KO,2KOP,2KOT,2KOX,2KU,2KUO,2KUOP,2KUOX,2KUP,2KUR,2KURX,2KUT,2KUX,2LA",
   "2LAP,2LAT,2LAX,2LE,2LEP,2LEX,2LI,2LIE,2LIEP,2LIET,2LIEX,2LIP,2LIT,2LIX,2LO,2LOP,2LOT,2LOX,2LU",
   "2LUO,2LUOP,2LUOT,2LUOX,2LUP,2LUR,2LURX,2LUT,2LUX,2LY,2LYP,2LYR,2LYRX,2LYT,2LYX,2MA,2MAP,2MAT",
   "2MAX,2ME,2MEX,2MGA,2MGAP,2MGAT,2MGAX,2MGE,2MGEP,2MGEX,2MGIE,2MGIEX,2MGO,2MGOP,2MGOT,2MGOX,2MGU",
   "2MGUO,2MGUOP,2MGUOX,2MGUP,2MGUR,2MGURX,2MGUT,2MGUX,2MI,2MIE,2MIEP,2MIEX,2MIP,2MIT,2MIX,2MO",
   "2MOP,2MOT,2MOX,2MU,2MUO,2MUOP,2MUOT,2MUOX,2MUP,2MUR,2MURX,2MUT,2MUX,2MY,2MYP,2MYT,2MYX,2NA",
   "2NAP,2NAX,2NBA,2NBAP,2NBAT,2NBAX,2NBI,2NBIE,2NBIEP,2NBIEX,2NBIP,2NBIT,2NBIX,2NBO,2NBOP,2NBOT",
   "2NBOX,2NBU,2NBUP,2NBUR,2NBURX,2NBUT,2NBUX,2NBY,2NBYP,2NBYR,2NBYRX,2NBYT,2NBYX,2NDA,2NDAP,2NDAT",
   "2NDAX,2NDE,2NDEP,2NDEX,2NDI,2NDIE,2NDIEX,2NDIP,2NDIT,2NDIX,2NDO,2NDOP,2NDOT,2NDOX,2NDU,2NDUP",
   "2NDUR,2NDURX,2NDUT,2NDUX,2NE,2NEP,2NEX,2NGA,2NGAP,2NGAT,2NGAX,2NGE,2NGEP,2NGEX,2NGIE,2NGIEP",
   "2NGIEX,2NGO,2NGOP,2NGOT,2NGOX,2NGUO,2NGUOT,2NGUOX,2NI,2NIE,2NIEP,2NIEX,2NIP,2NIT,2NIX,2NJI",
   "2NJIE,2NJIEP,2NJIET,2NJIEX,2NJIP,2NJIT,2NJIX,2NJO,2NJOP,2NJOT,2NJOX,2NJU,2NJUO,2NJUOX,2NJUP",
   "2NJUR,2NJURX,2NJUX,2NJY,2NJYP,2NJYR,2NJYRX,2NJYT,2NJYX,2NO,2NOP,2NOT,2NOX,2NRA,2NRAP,2NRAT",
   "2NRAX,2NRE,2NREP,2NRET,2NREX,2NRO,2NROP,2NROX,2NRU,2NRUP,2NRUR,2NRURX,2NRUT,2NRUX,2NRY,2NRYP",
   "2NRYR,2NRYRX,2NRYT,2NRYX,2NU,2NUO,2NUOP,2NUOX,2NUP,2NUR,2NURX,2NUT,2NUX,2NYI,2NYIE,2NYIEP",
   "2NYIET,2NYIEX,2NYIP,2NYIT,2NYIX,2NYO,2NYOP,2NYOT,2NYOX,2NYU,2NYUO,2NYUOP,2NYUOX,2NYUP,2NYUT",
   "2NYUX,2NZA,2NZAP,2NZAT,2NZAX,2NZE,2NZEX,2NZI,2NZIE,2NZIEP,2NZIEX,2NZIP,2NZIT,2NZIX,2NZOP,2NZOX",
   "2NZU,2NZUO,2NZUOX,2NZUP,2NZUR,2NZURX,2NZUX,2NZY,2NZYP,2NZYR,2NZYRX,2NZYT,2NZYX,2O,2OP,2OT,2OX",
   "2PA,2PAP,2PAT,2PAX,2PI,2PIE,2PIEP,2PIEX,2PIP,2PIT,2PIX,2PO,2POP,2POT,2POX,2PU,2PUO,2PUOP,2PUOX",
   "2PUP,2PUR,2PURX,2PUT,2PUX,2PY,2PYP,2PYR,2PYRX,2PYT,2PYX,2QI,2QIE,2QIEP,2QIET,2QIEX,2QIP,2QIT",
   "2QIX,2QO,2QOP,2QOT,2QOX,2QU,2QUO,2QUOP,2QUOT,2QUOX,2QUP,2QUR,2QURX,2QUT,2QUX,2QY,2QYP,2QYR",
   "2QYRX,2QYT,2QYX,2RA,2RAP,2RAT,2RAX,2RE,2REP,2REX,2RO,2ROP,2ROT,2ROX,2RRA,2RRAX,2RRE,2RREP",
   "2RRET,2RREX,2RRO,2RROP,2RROT,2RROX,2RRU,2RRUO,2RRUOX,2RRUP,2RRUR,2RRURX,2RRUT,2RRUX,2RRY,2RRYP",
   "2RRYR,2RRYRX,2RRYT,2RRYX,2RU,2RUO,2RUOP,2RUOX,2RUP,2RUR,2RURX,2RUT,2RUX,2RY,2RYP,2RYR,2RYRX",
   "2RYT,2RYX,2SA,2SAP,2SAT,2SAX,2SE,2SEP,2SEX,2SHA,2SHAP,2SHAT,2SHAX,2SHE,2SHEP,2SHET,2SHEX,2SHO",
   "2SHOP,2SHOT,2SHOX,2SHU,2SHUO,2SHUOP,2SHUOX,2SHUP,2SHUR,2SHURX,2SHUT,2SHUX,2SHY,2SHYP,2SHYR",
   "2SHYRX,2SHYT,2SHYX,2SI,2SIE,2SIEP,2SIEX,2SIP,2SIT,2SIX,2SO,2SOP,2SOT,2SOX,2SSA,2SSAP,2SSAT",
   "2SSAX,2SSE,2SSEP,2SSEX,2SSI,2SSIE,2SSIEP,2SSIEX,2SSIP,2SSIT,2SSIX,2SSO,2SSOP,2SSOT,2SSOX,2SSU",
   "2SSUP,2SSUT,2SSUX,2SSY,2SSYP,2SSYR,2SSYRX,2SSYT,2SSYX,2SU,2SUO,2SUOP,2SUOX,2SUP,2SUR,2SURX",
   "2SUT,2SUX,2SY,2SYP,2SYR,2SYRX,2SYT,2SYX,2TA,2TAP,2TAT,2TAX,2TE,2TEP,2TEX,2TI,2TIE,2TIEP,2TIEX",
   "2TIP,2TIT,2TIX,2TO,2TOP,2TOT,2TOX,2TU,2TUO,2TUOP,2TUOT,2TUOX,2TUP,2TUR,2TURX,2TUT,2TUX,2UO",
   "2UOP,2UOX,2VA,2VAP,2VAT,2VAX,2VEP,2VEX,2VI,2VIE,2VIEP,2VIET,2VIEX,2VIP,2VIT,2VIX,2VO,2VOP,2VOT",
   "2VOX,2VU,2VUP,2VUR,2VURX,2VUT,2VUX,2VY,2VYP,2VYR,2VYRX,2VYT,2VYX,2WA,2WAP,2WAT,2WAX,2WE,2WEP",
   "2WEX,2WO,2WOP,2WOX,2WU,2WUO,2WUOP,2WUOX,2XI,2XIE,2XIEP,2XIET,2XIEX,2XIP,2XIT,2XIX,2XO,2XOP",
   "2XOT,2XOX,2XUO,2XUOX,2XY,2XYP,2XYR,2XYRX,2XYT,2XYX,2YI,2YIE,2YIEP,2YIET,2YIEX,2YIP,2YIT,2YIX",
   "2YO,2YOP,2YOT,2YOX,2YU,2YUO,2YUOP,2YUOT,2YUOX,2YUP,2YUR,2YURX,2YUT,2YUX,2YY,2YYP,2YYR,2YYRX",
   "2YYT,2YYX,2ZA,2ZAP,2ZAT,2ZAX,2ZE,2ZEP,2ZEX,2ZHA,2ZHAP,2ZHAT,2ZHAX,2ZHE,2ZHEP,2ZHET,2ZHEX,2ZHO",
   "2ZHOP,2ZHOT,2ZHOX,2ZHU,2ZHUO,2ZHUOP,2ZHUOX,2ZHUP,2ZHUR,2ZHURX,2ZHUT,2ZHUX,2ZHY,2ZHYP,2ZHYR",
   "2ZHYRX,2ZHYT,2ZHYX,2ZI,2ZIE,2ZIEP,2ZIEX,2ZIP,2ZIT,2ZIX,2ZO,2ZOP,2ZOT,2ZOX,2ZU,2ZUO,2ZUOP,2ZUOX",
   "2ZUP,2ZUR,2ZURX,2ZUT,2ZUX,2ZY,2ZYP,2ZYR,2ZYRX,2ZYT,2ZYX,2ZZA,2ZZAP,2ZZAT,2ZZAX,2ZZE,2ZZEP",
   "2ZZEX,2ZZI,2ZZIE,2ZZIEP,2ZZIET,2ZZIEX,2ZZIP,2ZZIT,2ZZIX,2ZZO,2ZZOP,2ZZOX,2ZZU,2ZZUP,2ZZUR",
   "2ZZURX,2ZZUX,2ZZY,2ZZYP,2ZZYR,2ZZYRX,2ZZYT,2ZZYX,0YIN YANG,0YO-YO,0Z NOTATION BAG MEMBERSHIP",
   "2DOMAIN ANTIRESTRICTION,2LEFT BINDING BRACKET,3IMAGE BRACKET,2RANGE ANTIRESTRICTION",
   "2RELATIONAL COMPOSITION,2RIGHT BINDING BRACKET,3IMAGE BRACKET,2SCHEMA COMPOSITION,3PIPING",
   "3PROJECTION,2SPOT,2TYPE COLON,0ZANABAZAR SQUARE CLOSING DOUBLE-LINED HEAD MARK,3HEAD MARK",
   "2CLUSTER-FINAL LETTER LA,4RA,4VA,4YA,2CLUSTER-INITIAL LETTER RA,2FINAL CONSONANT MARK",
   "2INITIAL DOUBLE-LINED HEAD MARK,3HEAD MARK,2LETTER -A,3A,3BA,3BHA,3CA,3CHA,3DA,3DDA,3DDHA,3DHA",
   "3DZA,3DZHA,3GA,3GHA,3HA,3JA,3KA,3KHA,3KSSA,3LA,3MA,3NA,3NGA,3NNA,3NYA,3PA,3PHA,3RA,3SA,3SHA",
   "3SSA,3TA,3THA,3TSA,3TSHA,3TTA,3TTHA,3VA,3YA,3ZA,3ZHA,2MARK DOUBLE SHAD,3LONG TSHEG,3SHAD",
   "3TSHEG,2SIGN ANUSVARA,3CANDRA WITH ORNAMENT,3CANDRABINDU,4WITH ORNAMENT,3VIRAMA,3VISARGA",
   "2SUBJOINER,2VOWEL LENGTH MARK,3SIGN AI,4AU,4E,4I,4O,4OE,4REVERSED I,4U,4UE,0ZEBRA FACE",
   "0ZERO WIDTH JOINER,2NO-BREAK SPACE,2NON-JOINER,2SPACE,0ZEUS,0ZIPPER-MOUTH FACE",
   "0ZNAMENNY COMBINING ATTACHING VERTICAL OMET,2LOWER TONAL RANGE INDICATOR,2MARK BORZAYA",
   "3CHASHKA,4POLNAYA,3CURVED OMET,3DEMESTVENNY ZADERZHKA,3DVOETOCHIE,3GORAZDO NIZKO ON LEFT",
   "6RIGHT,5S KRYZHEM ON LEFT,8RIGHT,4VYSOKO,3KACHKA,3KRYZH,4ON LEFT,3KUPNAYA,3LOMKA",
   "3MALO POVYSHE ON LEFT,6RIGHT,5S KHOKHLOM ON LEFT,8RIGHT,6KRYZHEM,5STRANNO,3NIZKO ON LEFT",
   "5RIGHT,4S KRYZHEM ON LEFT,7RIGHT,3OBLACHKO,3ON,3OTSECHKA,3PODCHASHIE,4WITH VERTICAL STROKE",
   "3PODVERTKA,3POVYSHE ON LEFT,5RIGHT,4S KHOKHLOM ON LEFT,7RIGHT,5KRYZHEM,4STRANNO,3RAVNO",
   "3RAZSEKA,3SKOBA,3SOROCHYA NOZHKA,3SREDNE ON LEFT,5RIGHT,3STRANNO MALO POVYSHE,3TIKHAYA,3TOCHKA",
   "3TSATA ON LEFT,5RIGHT,4S KRYZHEM,3UDARKA,3VYSOKO ON LEFT,5RIGHT,4S KHOKHLOM ON LEFT,7RIGHT",
   "5KRYZHEM,3ZADERZHKA,3ZELO,3ZEVOK,2TONAL RANGE MARK MRACHNO,5SVETLO,5TRESVETLO,1NEUME CHASHKA",
   "2CHELYUSTKA,2DEMESTVENNY KLYUCH,2DERBITSA,2DOUBLE ZAPYATAYA,2DUDA,2DVA V CHELNU,2FITA",
   "2GOLUBCHIK BORZY,3MRACHNY,3SVETLY,3TIKHY,3TRESVETLY,2KHAMILO,2KLYUCH,2KOBYLA,2KRYUK,3TIKHY",
   "2KRYZH,2KUFISMA,2MECHIK,3KLYUCHENEPOSTOYANNY,3KLYUCHEPOVODNY,3KLYUCHEVOY,3POVODNY,2NEMKA",
   "2OBLAKO,2OSOKA,3KLYUCHEVAYA NEPOSTOYANNAYA,4SVETLAYA,3KRYUKOVAYA SVETLAYA,3SVETLAYA",
   "3TRESVETLAYA,2PALKA,2PARAKLIT,2PAUK,2PEREVODKA,3NEPOSTOYANNAYA,2PODCHASHIE,2POLKULIZMY",
   "2REVERSED CHELYUSTKA,2ROG,2SKAMEYTSA DVOECHELNAYA KLYUCHEVAYA,4NEPOSTOYANNAYA,4PROSTAYA",
   "4SVETLAYA,3KLYUCHENEPOSTOYANNAYA,3KLYUCHEVAYA SVETLAYA,4TIKHAYA,3MRACHNAYA,3SVETLAYA,3TIKHAYA",
   "3TRESVETLAYA,2SLOZHITIE,3S KRYZHEM,4ZAPYATOY,3ZAKRYTOE,2STATYA,3NEPOSTOYANNAYA",
   "3S DVUMYA ZAPYATYMI,4KRYZHEM,5I ZAPYATOY,4ROGOM,4ZAPYATOY,5I KRYZHEM,6PODCHASHIEM,3ZAKRYTAYA",
   "4S ZAPYATOY,2STOPITSA,3S OCHKOM,3WITH SOROCHYA NOZHKA,2STRELA DVOECHELNAYA,4KLYUCHEVAYA",
   "3DVOECHELNOKRYZHEVAYA,3DVOECHELNOPOVODNAYA,4KLYUCHEVAYA,3GROMNAYA,4WITH SINGLE ZAPYATAYA",
   "3GROMOKRYZHEVAYA,4POVODNAYA,3GROMOPOVODNAYA,4WITH DOUBLE ZAPYATAYA,5SINGLE ZAPYATAYA",
   "3KLYUCHENEPOSTOYANNAYA,3KLYUCHEPOVODNAYA,3KRYUKOVAYA,4GROMNAYA,5WITH SINGLE ZAPYATAYA",
   "4GROMOKRYZHEVAYA,5POVODNAYA,4GROMOPOVODNAYA,5WITH DOUBLE ZAPYATAYA,6SINGLE ZAPYATAYA",
   "4POVODNAYA,4TRYASKA,3KRYZHEVAYA,3MRACHNOTIKHAYA,3NEPOSTOYANNAYA,3POLUPOVODNAYA,3POVODNAYA",
   "3PROSTAYA,3TIKHAYA PUTNAYA,3TRYASOGLASNAYA,3TRYASOPOVODNAYA,3TRYASOSTRELNAYA",
   "2VRAKHIYA KLYUCHEVAYA MRACHNAYA,4PROSTAYA,4SVETLAYA,4TRESVETLAYA,3MRACHNAYA,3PROSTAYA",
   "3SVETLAYA,3TRESVETLAYA,2ZANOZHEK,2ZAPYATAYA,2ZMEYTSA,1PRIZNAK MODIFIER DIRECTION FLIP,3KRYZH",
   "3LEVEL-2,3LEVEL-3,3ROG,0ZOMBIE,0ZWJ,0ZWNBSP,0ZWNJ,0ZWSP"]

end Text
end Typings
