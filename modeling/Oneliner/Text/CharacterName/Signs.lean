namespace Oneliner
namespace Text
namespace CharacterName

/-!
Names of characters: punctuation and symbols.
-/

/-- The names of the characters from 2000 to 27BF, in short form. -/
def signs : List String :=
  ["2000=0EN QUAD|0EM QUAD|0EN SPACE|0EM SPACE|0THREE-PER-EM SPACE|0FOUR-PER-EM SPACE",
   "0SIX-PER-EM SPACE|0FIGURE SPACE|0PUNCTUATION SPACE|0THIN SPACE|0HAIR SPACE|0ZERO WIDTH SPACE",
   "2NON-JOINER|2JOINER|0LEFT-TO-RIGHT MARK|0RIGHT-TO-LEFT MARK|0HYPHEN|0NON-BREAKING HYPHEN",
   "0FIGURE DASH|0EN DASH|0EM DASH|0j BAR|0g x LINE|1LOW LINE|0m SINGLE QUOTATION MARK",
   "0p SINGLE QUOTATION MARK|0SINGLE LOW-9 QUOTATION MARK|1HIGH-REVERSED-9 QUOTATION MARK",
   "0m g QUOTATION MARK|0p g QUOTATION MARK|0g LOW-9 QUOTATION MARK",
   "1HIGH-REVERSED-9 QUOTATION MARK|0DAGGER|0g DAGGER|0BULLET|0TRIANGULAR BULLET|0ONE DOT LEADER",
   "0TWO DOT LEADER|0j ELLIPSIS|0HYPHENATION POINT|0LINE SEPARATOR|0PARAGRAPH SEPARATOR",
   "0LEFT-TO-RIGHT EMBEDDING|0RIGHT-TO-LEFT EMBEDDING|0POP DIRECTIONAL FORMATTING",
   "0LEFT-TO-RIGHT OVERRIDE|0RIGHT-TO-LEFT OVERRIDE|0NARROW NO-BREAK SPACE|0PER MILLE r",
   "1TEN THOUSAND r|0PRIME|0g PRIME|0TRIPLE PRIME|0REVERSED PRIME|1g PRIME|1TRIPLE PRIME|0CARET",
   "0SINGLE LEFT-POINTING ANGLE QUOTATION MARK|1RIGHT-POINTING ANGLE QUOTATION MARK",
   "0REFERENCE MARK|0g EXCLAMATION MARK|0INTERROBANG|0OVERLINE|0UNDERTIE|0CHARACTER TIE",
   "0CARET INSERTION POINT|0ASTERISM|0HYPHEN BULLET|0FRACTION SLASH|0m SQUARE BRACKET z QUILL",
   "0p SQUARE BRACKET z QUILL|0g QUESTION MARK|0QUESTION EXCLAMATION MARK",
   "0EXCLAMATION QUESTION MARK|0TIRONIAN r ET|0REVERSED PILCROW r|0e n BULLET|1q BULLET",
   "0LOW ASTERISK|0REVERSED SEMICOLON|0CLOSE UP|0TWO ASTERISKS ALIGNED VERTICALLY",
   "0COMMERCIAL MINUS r|0SWUNG DASH|0INVERTED UNDERTIE|0FLOWER PUNCTUATION MARK|0v DOT PUNCTUATION",
   "0QUADRUPLE PRIME|0FOUR DOT PUNCTUATION|0FIVE DOT PUNCTUATION|0TWO DOT PUNCTUATION",
   "0FOUR DOT MARK|0DOTTED CROSS|0TRICOLON|0x FOUR DOTS|0MEDIUM MATHEMATICAL SPACE|0WORD JOINER",
   "0FUNCTION APPLICATION|0INVISIBLE TIMES|1SEPARATOR|1PLUS|2066=0LEFT-TO-RIGHT ISOLATE",
   "0RIGHT-TO-LEFT ISOLATE|0FIRST STRONG ISOLATE|0POP DIRECTIONAL ISOLATE",
   "0INHIBIT SYMMETRIC SWAPPING|0ACTIVATE SYMMETRIC SWAPPING|0INHIBIT ARABIC i SHAPING",
   "0ACTIVATE ARABIC i SHAPING|0NATIONAL DIGIT SHAPES|0NOMINAL DIGIT SHAPES|0SUPERSCRIPT ZERO",
   "1LATIN s o I|2074=1FOUR|1FIVE|1SIX|1SEVEN|1EIGHT|1NINE|1PLUS r|1MINUS|1EQUALS r|1m PARENTHESIS",
   "1p PARENTHESIS|1LATIN s o N|0SUBSCRIPT ZERO|1ONE|1TWO|1v|1FOUR|1FIVE|1SIX|1SEVEN|1EIGHT|1NINE",
   "1PLUS r|1MINUS|1EQUALS r|1m PARENTHESIS|1p PARENTHESIS|2090=0LATIN SUBSCRIPT s o A|4E|4O|4X",
   "4SCHWA|4H|4K|4L|4M|4N|4P|4S|4T|20A0=0EURO-CURRENCY r|0COLON r|0CRUZEIRO r|0FRENCH FRANC r",
   "0LIRA r|0MILL r|0NAIRA r|0PESETA r|0RUPEE r|0WON r|0NEW SHEQEL r|0DONG r|0EURO r|0KIP r",
   "0TUGRIK r|0DRACHMA r|0GERMAN PENNY r|0PESO r|0GUARANI r|0AUSTRAL r|0HRYVNIA r|0CEDI r",
   "0LIVRE TOURNOIS r|0SPESMILO r|0TENGE r|0INDIAN RUPEE r|0TURKISH LIRA r|0NORDIC MARK r|0MANAT r",
   "0RUBLE r|0LARI r|0BITCOIN r|0SOM r|20D0=0COMBINING m HARPOON a|1p HARPOON a",
   "1LONG x LINE OVERLAY|1SHORT x LINE OVERLAY|1ANTICLOCKWISE c a|1CLOCKWISE c a|1m c a|1p c a",
   "1RING OVERLAY|1CLOCKWISE RING OVERLAY|1ANTICLOCKWISE RING OVERLAY|1v DOTS a|1FOUR DOTS a",
   "1ENCLOSING CIRCLE|2SQUARE|2DIAMOND|2CIRCLE BACKSLASH|1m p c a|1ENCLOSING SCREEN|2KEYCAP",
   "2UPWARD POINTING TRIANGLE|1REVERSE SOLIDUS OVERLAY|1g x t OVERLAY|1ANNUITY u|1TRIPLE UNDERDOT",
   "1WIDE BRIDGE a|1n c OVERLAY|1LONG g SOLIDUS OVERLAY|1q HARPOON z BARB DOWNWARDS",
   "1n HARPOON z BARB DOWNWARDS|1m c d|1p c d|1ASTERISK a|2100=0ACCOUNT OF",
   "0ADDRESSED TO THE SUBJECT|0DOUBLE-STRUCK f C|0DEGREE CELSIUS|0CENTRE LINE u|0CARE OF|0CADA UNA",
   "0EULER CONSTANT|0SCRUPLE|0DEGREE FAHRENHEIT|0SCRIPT s G|1f H|0BLACK-LETTER f H",
   "0DOUBLE-STRUCK f H|0PLANCK CONSTANT|2OVER TWO PI|0SCRIPT f I|0BLACK-LETTER f I|0SCRIPT f L",
   "1s L|0L B BAR u|0DOUBLE-STRUCK f N|0NUMERO r|0SOUND RECORDING COPYRIGHT|0SCRIPT f P",
   "0DOUBLE-STRUCK f P|2Q|0SCRIPT f R|0BLACK-LETTER f R|0DOUBLE-STRUCK f R|0PRESCRIPTION TAKE",
   "0RESPONSE|0SERVICE MARK|0TELEPHONE r|0TRADE MARK r|0VERSICLE|0DOUBLE-STRUCK f Z|0OUNCE r",
   "0OHM r|0INVERTED OHM r|0BLACK-LETTER f Z|0TURNED GREEK s o IOTA|0KELVIN r|0ANGSTROM r",
   "0SCRIPT f B|0BLACK-LETTER f C|0ESTIMATED u|0SCRIPT s E|1f E|2F|0TURNED f F|0SCRIPT f M|1s O",
   "0ALEF u|0BET u|0GIMEL u|0DALET u|0INFORMATION SOURCE|0ROTATED f Q|0FACSIMILE r",
   "0DOUBLE-STRUCK s PI|2GAMMA|1f GAMMA|2PI|1N-ARY SUMMATION|0TURNED SANS-SERIF f G|3L",
   "0REVERSED SANS-SERIF f L|0TURNED SANS-SERIF f Y|0DOUBLE-STRUCK ITALIC f D|2s D|3E|3I|3J",
   "0PROPERTY LINE|0TURNED AMPERSAND|0PER r|0AKTIESELSKAB|0TURNED s F|0u FOR SAMARITAN SOURCE",
   "0VULGAR FRACTION ONE SEVENTH|3NINTH|3TENTH|3THIRD|2TWO THIRDS|2ONE FIFTH|2TWO FIFTHS|2v FIFTHS",
   "2FOUR FIFTHS|2ONE SIXTH|2FIVE SIXTHS|2ONE EIGHTH|2v EIGHTHS|2FIVE EIGHTHS|2SEVEN EIGHTHS",
   "0FRACTION NUMERATOR ONE|0ROMAN NUMERAL ONE|2TWO|2v|2FOUR|2FIVE|2SIX|2SEVEN|2EIGHT|2NINE|2TEN",
   "2ELEVEN|2TWELVE|2FIFTY|2ONE HUNDRED|2FIVE HUNDRED|2ONE THOUSAND|0s ROMAN NUMERAL ONE|3TWO|3v",
   "3FOUR|3FIVE|3SIX|3SEVEN|3EIGHT|3NINE|3TEN|3ELEVEN|3TWELVE|3FIFTY|3ONE HUNDRED|3FIVE HUNDRED",
   "3ONE THOUSAND|0ROMAN NUMERAL ONE THOUSAND C D|2FIVE THOUSAND|2TEN THOUSAND",
   "2REVERSED ONE HUNDRED|0LATIN s o REVERSED C|0ROMAN NUMERAL SIX LATE i|2FIFTY EARLY i|3THOUSAND",
   "2ONE HUNDRED THOUSAND|0VULGAR FRACTION ZERO THIRDS|0TURNED DIGIT TWO|2v|2190=0n c|0UPWARDS c",
   "0q c|0DOWNWARDS c|0m p c|0UP DOWN c|0NORTH WEST c|1EAST c|0SOUTH EAST c|1WEST c|0n c z t",
   "0q c z t|0n WAVE c|0q WAVE c|0n TWO HEADED c|0UPWARDS TWO HEADED c|0q TWO HEADED c",
   "0DOWNWARDS TWO HEADED c|0n c z TAIL|0q c z TAIL|0n c FROM BAR|0UPWARDS c FROM BAR",
   "0q c FROM BAR|0DOWNWARDS c FROM BAR|0UP DOWN c z BASE|0n c z HOOK|0q c z HOOK|0n c z LOOP",
   "0q c z LOOP|0m p WAVE c|2c z t|0DOWNWARDS ZIGZAG c|0UPWARDS c z TIP n|4q|0DOWNWARDS c z TIP n",
   "4q|0q c z CORNER DOWNWARDS|0DOWNWARDS c z CORNER n|0ANTICLOCKWISE TOP SEMICIRCLE c",
   "0CLOCKWISE TOP SEMICIRCLE c|0NORTH WEST c TO LONG BAR|0n c TO BAR OVER q c TO BAR",
   "0ANTICLOCKWISE OPEN CIRCLE c|0CLOCKWISE OPEN CIRCLE c|0n HARPOON z BARB UPWARDS|4DOWNWARDS",
   "0UPWARDS HARPOON z BARB q|4n|0q HARPOON z BARB UPWARDS|4DOWNWARDS|0DOWNWARDS HARPOON z BARB q",
   "4n|0q c OVER n c|0UPWARDS c n OF DOWNWARDS c|0n c OVER q c|1PAIRED ARROWS",
   "0UPWARDS PAIRED ARROWS|0q PAIRED ARROWS|0DOWNWARDS PAIRED ARROWS|0n HARPOON OVER q HARPOON",
   "0q HARPOON OVER n HARPOON|0n g c z t|0m p g c z t|0q g c z t|0n g c|0UPWARDS g c|0q g c",
   "0DOWNWARDS g c|0m p g c|0UP DOWN g c|0NORTH WEST g c|1EAST g c|0SOUTH EAST g c|1WEST g c",
   "0n TRIPLE c|0q TRIPLE c|0n SQUIGGLE c|0q SQUIGGLE c|0UPWARDS c z g t|0DOWNWARDS c z g t",
   "0n DASHED c|0UPWARDS DASHED c|0q DASHED c|0DOWNWARDS DASHED c|0n c TO BAR|0q c TO BAR|0n y c",
   "0UPWARDS y c|0q y c|0DOWNWARDS y c|0UPWARDS y c FROM BAR|3ON PEDESTAL|5z j BAR|6x BAR|2g c",
   "4ON PEDESTAL|0q y c FROM WALL|0NORTH WEST c TO CORNER|0SOUTH EAST c TO CORNER|0UP DOWN y c",
   "0p c z s CIRCLE|0DOWNWARDS c n OF UPWARDS c|0v q ARROWS|0n c z x t|0q c z x t|0m p c z x t",
   "0n c z g x t|0q c z g x t|0m p c z g x t|0n OPEN-HEADED c|0q OPEN-HEADED c|0m p OPEN-HEADED c",
   "0FOR ALL|0COMPLEMENT|0PARTIAL DIFFERENTIAL|0THERE EXISTS|1DOES NOT EXIST|0EMPTY SET|0INCREMENT",
   "0NABLA|0ELEMENT OF|0NOT AN ELEMENT OF|0s ELEMENT OF|0CONTAINS AS MEMBER",
   "0DOES NOT CONTAIN AS MEMBER|0s CONTAINS AS MEMBER|0END OF PROOF|0N-ARY PRODUCT|1COPRODUCT",
   "1SUMMATION|0MINUS r|0MINUS-OR-PLUS r|0DOT PLUS|0DIVISION SLASH|0SET MINUS|0ASTERISK OPERATOR",
   "0RING OPERATOR|0BULLET OPERATOR|0SQUARE ROOT|0CUBE ROOT|0FOURTH ROOT|0PROPORTIONAL TO",
   "0INFINITY|0p ANGLE|0ANGLE|0MEASURED ANGLE|0SPHERICAL ANGLE|0DIVIDES|0DOES NOT DIVIDE",
   "0PARALLEL TO|0NOT PARALLEL TO|0LOGICAL b|1OR|0INTERSECTION|0UNION|0INTEGRAL|0g INTEGRAL",
   "0TRIPLE INTEGRAL|0CONTOUR INTEGRAL|0SURFACE INTEGRAL|0VOLUME INTEGRAL|0CLOCKWISE INTEGRAL",
   "1CONTOUR INTEGRAL|0ANTICLOCKWISE CONTOUR INTEGRAL|0THEREFORE|0BECAUSE|0RATIO|0PROPORTION",
   "0DOT MINUS|0EXCESS|0GEOMETRIC PROPORTION|0HOMOTHETIC|0TILDE OPERATOR|0REVERSED TILDE",
   "0INVERTED LAZY S|0SINE WAVE|0WREATH PRODUCT|0NOT TILDE|0MINUS TILDE|0ASYMPTOTICALLY EQUAL TO",
   "0NOT ASYMPTOTICALLY EQUAL TO|0APPROXIMATELY EQUAL TO|1BUT NOT ACTUALLY EQUAL TO",
   "0NEITHER APPROXIMATELY NOR ACTUALLY EQUAL TO|0ALMOST EQUAL TO|0NOT ALMOST EQUAL TO",
   "0ALMOST EQUAL OR EQUAL TO|0TRIPLE TILDE|0ALL EQUAL TO|0EQUIVALENT TO",
   "0GEOMETRICALLY EQUIVALENT TO|0DIFFERENCE BETWEEN|0APPROACHES THE LIMIT|0GEOMETRICALLY EQUAL TO",
   "0APPROXIMATELY EQUAL TO OR THE IMAGE OF|0IMAGE OF OR APPROXIMATELY EQUAL TO|0COLON EQUALS",
   "0EQUALS COLON|0RING IN EQUAL TO|1EQUAL TO|0CORRESPONDS TO|0ESTIMATES|0EQUIANGULAR TO",
   "0STAR EQUALS|0DELTA EQUAL TO|0EQUAL TO BY DEFINITION|0MEASURED BY|0QUESTIONED EQUAL TO",
   "0NOT EQUAL TO|0IDENTICAL TO|0NOT IDENTICAL TO|0STRICTLY EQUIVALENT TO|0LESS-THAN OR EQUAL TO",
   "0GREATER-THAN OR EQUAL TO|0LESS-THAN OVER EQUAL TO|0GREATER-THAN OVER EQUAL TO",
   "0LESS-THAN BUT NOT EQUAL TO|0GREATER-THAN BUT NOT EQUAL TO|0MUCH LESS-THAN|1GREATER-THAN",
   "0BETWEEN|0NOT EQUIVALENT TO|1LESS-THAN|1GREATER-THAN|0NEITHER LESS-THAN NOR EQUAL TO",
   "1GREATER-THAN NOR EQUAL TO|0LESS-THAN OR EQUIVALENT TO|0GREATER-THAN OR EQUIVALENT TO",
   "0NEITHER LESS-THAN NOR EQUIVALENT TO|1GREATER-THAN NOR EQUIVALENT TO",
   "0LESS-THAN OR GREATER-THAN|0GREATER-THAN OR LESS-THAN|0NEITHER LESS-THAN NOR GREATER-THAN",
   "1GREATER-THAN NOR LESS-THAN|0PRECEDES|0SUCCEEDS|0PRECEDES OR EQUAL TO|0SUCCEEDS OR EQUAL TO",
   "0PRECEDES OR EQUIVALENT TO|0SUCCEEDS OR EQUIVALENT TO|0DOES NOT PRECEDE|2SUCCEED|0SUBSET OF",
   "0SUPERSET OF|0NOT A SUBSET OF|2SUPERSET OF|0SUBSET OF OR EQUAL TO|0SUPERSET OF OR EQUAL TO",
   "0NEITHER A SUBSET OF NOR EQUAL TO|2SUPERSET OF NOR EQUAL TO|0SUBSET OF z NOT EQUAL TO",
   "0SUPERSET OF z NOT EQUAL TO|0MULTISET|1MULTIPLICATION|1UNION|0SQUARE IMAGE OF|1ORIGINAL OF",
   "1IMAGE OF OR EQUAL TO|1ORIGINAL OF OR EQUAL TO|1CAP|1CUP|0CIRCLED PLUS|1MINUS|1TIMES",
   "1DIVISION SLASH|1DOT OPERATOR|1RING OPERATOR|1ASTERISK OPERATOR|1EQUALS|1DASH|0SQUARED PLUS",
   "1MINUS|1TIMES|1DOT OPERATOR|0p TACK|0m TACK|0DOWN TACK|0UP TACK|0ASSERTION|0MODELS|0TRUE",
   "0FORCES|0TRIPLE x BAR p TURNSTILE|0g x BAR g p TURNSTILE|0DOES NOT PROVE|0NOT TRUE",
   "0DOES NOT FORCE|0NEGATED g x BAR g p TURNSTILE|0PRECEDES UNDER RELATION",
   "0SUCCEEDS UNDER RELATION|0NORMAL SUBGROUP OF|0CONTAINS AS NORMAL SUBGROUP",
   "0NORMAL SUBGROUP OF OR EQUAL TO|0CONTAINS AS NORMAL SUBGROUP OR EQUAL TO|0ORIGINAL OF",
   "0IMAGE OF|0MULTIMAP|0HERMITIAN CONJUGATE MATRIX|0INTERCALATE|0XOR|0NAND|0NOR|0p ANGLE z ARC",
   "1TRIANGLE|0N-ARY LOGICAL b|2OR|1INTERSECTION|1UNION|0DIAMOND OPERATOR|0DOT OPERATOR",
   "0STAR OPERATOR|0DIVISION TIMES|0BOWTIE|0m NORMAL FACTOR SEMIDIRECT PRODUCT",
   "0p NORMAL FACTOR SEMIDIRECT PRODUCT|0m SEMIDIRECT PRODUCT|0p SEMIDIRECT PRODUCT",
   "0REVERSED TILDE EQUALS|0CURLY LOGICAL OR|2b|0g SUBSET|1SUPERSET|1INTERSECTION|1UNION",
   "0PITCHFORK|0EQUAL b PARALLEL TO|0LESS-THAN z DOT|0GREATER-THAN z DOT|0VERY MUCH LESS-THAN",
   "2GREATER-THAN|0LESS-THAN EQUAL TO OR GREATER-THAN|0GREATER-THAN EQUAL TO OR LESS-THAN",
   "0EQUAL TO OR LESS-THAN|3GREATER-THAN|3PRECEDES|3SUCCEEDS|0DOES NOT PRECEDE OR EQUAL",
   "2SUCCEED OR EQUAL|0NOT SQUARE IMAGE OF OR EQUAL TO|2ORIGINAL OF OR EQUAL TO",
   "0SQUARE IMAGE OF OR NOT EQUAL TO|1ORIGINAL OF OR NOT EQUAL TO|0LESS-THAN BUT NOT EQUIVALENT TO",
   "0GREATER-THAN BUT NOT EQUIVALENT TO|0PRECEDES BUT NOT EQUIVALENT TO",
   "0SUCCEEDS BUT NOT EQUIVALENT TO|0NOT NORMAL SUBGROUP OF|0DOES NOT CONTAIN AS NORMAL SUBGROUP",
   "0NOT NORMAL SUBGROUP OF OR EQUAL TO|0DOES NOT CONTAIN AS NORMAL SUBGROUP OR EQUAL|0x ELLIPSIS",
   "0MIDLINE j ELLIPSIS|0UP p DIAGONAL ELLIPSIS|0DOWN p DIAGONAL ELLIPSIS|0ELEMENT OF z LONG j t",
   "3x BAR AT END OF j t|0s ELEMENT OF z x BAR AT END OF j t|0ELEMENT OF z DOT a|3OVERBAR",
   "0s ELEMENT OF z OVERBAR|0ELEMENT OF z UNDERBAR|3TWO j STROKES|0CONTAINS z LONG j t",
   "2x BAR AT END OF j t|0s CONTAINS z x BAR AT END OF j t|0CONTAINS z OVERBAR",
   "0s CONTAINS z OVERBAR|0Z NOTATION BAG MEMBERSHIP|0DIAMETER r|0ELECTRIC c|0HOUSE|0UP ARROWHEAD",
   "0DOWN ARROWHEAD|0PROJECTIVE|0PERSPECTIVE|0WAVY LINE|0m CEILING|0p CEILING|0m FLOOR|0p FLOOR",
   "0BOTTOM p CROP|1m CROP|0TOP p CROP|1m CROP|0REVERSED NOT r|0SQUARE LOZENGE|0ARC|0SEGMENT",
   "0SECTOR|0TELEPHONE RECORDER|0POSITION INDICATOR|0VIEWDATA SQUARE|0PLACE OF INTEREST r",
   "0TURNED NOT r|0WATCH|0HOURGLASS|0TOP m CORNER|1p CORNER|0BOTTOM m CORNER|1p CORNER",
   "0TOP HALF INTEGRAL|0BOTTOM HALF INTEGRAL|0FROWN|0SMILE|0UP ARROWHEAD BETWEEN TWO j BARS",
   "0OPTION KEY|0ERASE TO THE p|0X IN A RECTANGLE BOX|0KEYBOARD|0LEFT-POINTING ANGLE BRACKET",
   "0RIGHT-POINTING ANGLE BRACKET|0ERASE TO THE m|0BENZENE RING|0CYLINDRICITY|0ALL AROUND-PROFILE",
   "0SYMMETRY|0TOTAL RUNOUT|0DIMENSION ORIGIN|0CONICAL TAPER|0SLOPE|0COUNTERBORE|0COUNTERSINK",
   "0APL FUNCTIONAL u I-BEAM|3SQUISH QUAD|3QUAD EQUAL|4DIVIDE|4DIAMOND|4JOT|4CIRCLE|3CIRCLE STILE",
   "4JOT|3SLASH BAR|3BACKSLASH BAR|3QUAD SLASH|4BACKSLASH|4LESS-THAN|4GREATER-THAN|3n VANE|3q VANE",
   "3QUAD n c|4q c|3CIRCLE BACKSLASH|3DOWN TACK UNDERBAR|3DELTA STILE|3QUAD DOWN CARET|4DELTA",
   "3DOWN TACK JOT|3UPWARDS VANE|3QUAD UPWARDS c|3UP TACK OVERBAR|3DEL STILE|3QUAD UP CARET|4DEL",
   "3UP TACK JOT|3DOWNWARDS VANE|3QUAD DOWNWARDS c|3QUOTE UNDERBAR|3DELTA UNDERBAR",
   "3DIAMOND UNDERBAR|3JOT UNDERBAR|3CIRCLE UNDERBAR|3UP SHOE JOT|3QUOTE QUAD|3CIRCLE STAR",
   "3QUAD COLON|3UP TACK DIAERESIS|3DEL DIAERESIS|3STAR DIAERESIS|3JOT DIAERESIS|3CIRCLE DIAERESIS",
   "3DOWN SHOE STILE|3m SHOE STILE|3TILDE DIAERESIS|3GREATER-THAN DIAERESIS|3COMMA BAR|3DEL TILDE",
   "3ZILDE|3STILE TILDE|3SEMICOLON UNDERBAR|3QUAD NOT EQUAL|4QUESTION|3DOWN CARET TILDE",
   "3UP CARET TILDE|3IOTA|3RHO|3OMEGA|3ALPHA UNDERBAR|3EPSILON UNDERBAR|3IOTA UNDERBAR",
   "3OMEGA UNDERBAR|3ALPHA|0NOT CHECK MARK|0p ANGLE z DOWNWARDS ZIGZAG c|0SHOULDERED OPEN BOX",
   "0BELL u|0x LINE z MIDDLE DOT|0INSERTION u|0CONTINUOUS UNDERLINE u|0DISCONTINUOUS UNDERLINE u",
   "0EMPHASIS u|0COMPOSITION u|0y SQUARE z CENTRE x LINE|0ENTER u|0ALTERNATIVE KEY u|0HELM u",
   "0CIRCLED j BAR z NOTCH|1TRIANGLE DOWN|0BROKEN CIRCLE z NORTHWEST c|0UNDO u|0MONOSTABLE u",
   "0HYSTERESIS u|0OPEN-CIRCUIT-OUTPUT H-TYPE u|1L-TYPE u|0PASSIVE-PULL-DOWN-OUTPUT u",
   "0PASSIVE-PULL-UP-OUTPUT u|0DIRECT CURRENT u i TWO|0SOFTWARE-FUNCTION u|0APL FUNCTIONAL u QUAD",
   "0DECIMAL SEPARATOR KEY u|0PREVIOUS PAGE|0NEXT PAGE|0PRINT SCREEN u|0CLEAR SCREEN u",
   "0m PARENTHESIS UPPER HOOK|2EXTENSION|2LOWER HOOK|0p PARENTHESIS UPPER HOOK|2EXTENSION",
   "2LOWER HOOK|0m SQUARE BRACKET UPPER CORNER|3EXTENSION|3LOWER CORNER",
   "0p SQUARE BRACKET UPPER CORNER|3EXTENSION|3LOWER CORNER|0m CURLY BRACKET UPPER HOOK",
   "3MIDDLE PIECE|3LOWER HOOK|0CURLY BRACKET EXTENSION|0p CURLY BRACKET UPPER HOOK|3MIDDLE PIECE",
   "3LOWER HOOK|0INTEGRAL EXTENSION|0j LINE EXTENSION|0UPPER m OR LOWER p CURLY BRACKET SECTION",
   "1p OR LOWER m CURLY BRACKET SECTION|0SUMMATION TOP|1BOTTOM|0TOP SQUARE BRACKET",
   "0BOTTOM SQUARE BRACKET|3OVER TOP SQUARE BRACKET|0RADICAL u BOTTOM|0m x BOX LINE|0p x BOX LINE",
   "0j SCAN LINE-1|2LINE-3|2LINE-7|2LINE-9|0DENTISTRY u LIGHT x b TOP p|5BOTTOM p|4z CIRCLE",
   "3DOWN b j z CIRCLE|3UP b j z CIRCLE|3x z TRIANGLE|3DOWN b j z TRIANGLE|3UP b j z TRIANGLE",
   "3x b WAVE|3DOWN b j z WAVE|3UP b j z WAVE|3DOWN b j|3UP b j|3x b TOP m|5BOTTOM m|0SQUARE FOOT",
   "0RETURN u|0EJECT u|0x LINE EXTENSION|0METRICAL BREVE|1LONG OVER SHORT|1SHORT OVER LONG",
   "1LONG OVER TWO SHORTS|1TWO SHORTS OVER LONG|3JOINED|1TRISEME|1TETRASEME|1PENTASEME",
   "0EARTH GROUND|0FUSE|0TOP PARENTHESIS|0BOTTOM PARENTHESIS|0TOP CURLY BRACKET",
   "0BOTTOM CURLY BRACKET|0TOP TORTOISE SHELL BRACKET|0BOTTOM TORTOISE SHELL BRACKET|0y TRAPEZIUM",
   "0BENZENE RING z CIRCLE|0STRAIGHTNESS|0FLATNESS|0AC CURRENT|0ELECTRICAL INTERSECTION",
   "0DECIMAL EXPONENT u|0e RIGHT-POINTING g TRIANGLE|1LEFT-POINTING g TRIANGLE",
   "1UP-POINTING g TRIANGLE|1DOWN-POINTING g TRIANGLE|1RIGHT-POINTING g TRIANGLE z x BAR",
   "1LEFT-POINTING g TRIANGLE z x BAR|1RIGHT-POINTING TRIANGLE z g x BAR|0ALARM CLOCK|0STOPWATCH",
   "0TIMER CLOCK|0HOURGLASS z FLOWING SAND|0e MEDIUM LEFT-POINTING TRIANGLE",
   "2RIGHT-POINTING TRIANGLE|2UP-POINTING TRIANGLE|2DOWN-POINTING TRIANGLE|0g x BAR",
   "0e SQUARE FOR STOP|1CIRCLE FOR RECORD|0POWER u|1ON-OFF u|1ON u|1SLEEP u|0OBSERVER EYE u",
   "0u FOR NULL|2START OF HEADING|4TEXT|2END OF TEXT|4TRANSMISSION|2ENQUIRY|2ACKNOWLEDGE|2BELL",
   "2BACKSPACE|2j TABULATION|2LINE FEED|2x TABULATION|2i FEED|2CARRIAGE RETURN|2SHIFT OUT|3IN",
   "2DATA LINK ESCAPE|2DEVICE CONTROL ONE|4TWO|4v|4FOUR|2NEGATIVE ACKNOWLEDGE|2SYNCHRONOUS IDLE",
   "2END OF TRANSMISSION BLOCK|2CANCEL|2END OF MEDIUM|2SUBSTITUTE|2ESCAPE|2FILE SEPARATOR",
   "2GROUP SEPARATOR|2RECORD SEPARATOR|2UNIT SEPARATOR|2SPACE|2DELETE|0BLANK u|0OPEN BOX",
   "0u FOR NEWLINE|2DELETE i TWO|2SUBSTITUTE i TWO|2440=0OCR HOOK|1CHAIR|1FORK|1INVERTED FORK",
   "1BELT BUCKLE|1BOW TIE|1BRANCH BANK IDENTIFICATION|1AMOUNT OF CHECK|1DASH",
   "1CUSTOMER ACCOUNT NUMBER|1g BACKSLASH|2460=0CIRCLED DIGIT ONE|2TWO|2v|2FOUR|2FIVE|2SIX|2SEVEN",
   "2EIGHT|2NINE|1NUMBER TEN|2ELEVEN|2TWELVE|2THIRTEEN|2FOURTEEN|2FIFTEEN|2SIXTEEN|2SEVENTEEN",
   "2EIGHTEEN|2NINETEEN|2TWENTY|0PARENTHESIZED DIGIT ONE|2TWO|2v|2FOUR|2FIVE|2SIX|2SEVEN|2EIGHT",
   "2NINE|1NUMBER TEN|2ELEVEN|2TWELVE|2THIRTEEN|2FOURTEEN|2FIFTEEN|2SIXTEEN|2SEVENTEEN|2EIGHTEEN",
   "2NINETEEN|2TWENTY|0DIGIT ONE FULL STOP|1TWO FULL STOP|1v FULL STOP|1FOUR FULL STOP",
   "1FIVE FULL STOP|1SIX FULL STOP|1SEVEN FULL STOP|1EIGHT FULL STOP|1NINE FULL STOP",
   "0NUMBER TEN FULL STOP|1ELEVEN FULL STOP|1TWELVE FULL STOP|1THIRTEEN FULL STOP",
   "1FOURTEEN FULL STOP|1FIFTEEN FULL STOP|1SIXTEEN FULL STOP|1SEVENTEEN FULL STOP",
   "1EIGHTEEN FULL STOP|1NINETEEN FULL STOP|1TWENTY FULL STOP|0PARENTHESIZED LATIN s o A|4B|4C|4D",
   "4E|4F|4G|4H|4I|4J|4K|4L|4M|4N|4O|4P|4Q|4R|4S|4T|4U|4V|4W|4X|4Y|4Z|0CIRCLED LATIN f o A|4B|4C",
   "4D|4E|4F|4G|4H|4I|4J|4K|4L|4M|4N|4O|4P|4Q|4R|4S|4T|4U|4V|4W|4X|4Y|4Z|2s o A|4B|4C|4D|4E|4F|4G",
   "4H|4I|4J|4K|4L|4M|4N|4O|4P|4Q|4R|4S|4T|4U|4V|4W|4X|4Y|4Z|1DIGIT ZERO",
   "0NEGATIVE CIRCLED NUMBER ELEVEN|3TWELVE|3THIRTEEN|3FOURTEEN|3FIFTEEN|3SIXTEEN|3SEVENTEEN",
   "3EIGHTEEN|3NINETEEN|3TWENTY|0g CIRCLED DIGIT ONE|3TWO|3v|3FOUR|3FIVE|3SIX|3SEVEN|3EIGHT|3NINE",
   "2NUMBER TEN|0NEGATIVE CIRCLED DIGIT ZERO|0BOX DRAWINGS LIGHT j|2HEAVY j|2LIGHT x|2HEAVY x",
   "2LIGHT TRIPLE DASH j|2HEAVY TRIPLE DASH j|2LIGHT TRIPLE DASH x|2HEAVY TRIPLE DASH x",
   "2LIGHT QUADRUPLE DASH j|2HEAVY QUADRUPLE DASH j|2LIGHT QUADRUPLE DASH x",
   "2HEAVY QUADRUPLE DASH x|2LIGHT DOWN b p|2DOWN LIGHT b p HEAVY|3HEAVY b p LIGHT|2HEAVY DOWN b p",
   "2LIGHT DOWN b m|2DOWN LIGHT b m HEAVY|3HEAVY b m LIGHT|2HEAVY DOWN b m|2LIGHT UP b p",
   "2UP LIGHT b p HEAVY|3HEAVY b p LIGHT|2HEAVY UP b p|2LIGHT UP b m|2UP LIGHT b m HEAVY",
   "3HEAVY b m LIGHT|2HEAVY UP b m|2LIGHT x b p|2x LIGHT b p HEAVY|2UP HEAVY b p DOWN LIGHT",
   "2DOWN HEAVY b p UP LIGHT|2x HEAVY b p LIGHT|2DOWN LIGHT b p UP HEAVY|2UP LIGHT b p DOWN HEAVY",
   "2HEAVY x b p|2LIGHT x b m|2x LIGHT b m HEAVY|2UP HEAVY b m DOWN LIGHT|2DOWN HEAVY b m UP LIGHT",
   "2x HEAVY b m LIGHT|2DOWN LIGHT b m UP HEAVY|2UP LIGHT b m DOWN HEAVY|2HEAVY x b m",
   "2LIGHT DOWN b j|2m HEAVY b p DOWN LIGHT|2p HEAVY b m DOWN LIGHT|2DOWN LIGHT b j HEAVY",
   "3HEAVY b j LIGHT|2p LIGHT b m DOWN HEAVY|2m LIGHT b p DOWN HEAVY|2HEAVY DOWN b j|2LIGHT UP b j",
   "2m HEAVY b p UP LIGHT|2p HEAVY b m UP LIGHT|2UP LIGHT b j HEAVY|3HEAVY b j LIGHT",
   "2p LIGHT b m UP HEAVY|2m LIGHT b p UP HEAVY|2HEAVY UP b j|2LIGHT x b j|2m HEAVY b p x LIGHT",
   "2p HEAVY b m x LIGHT|2x LIGHT b j HEAVY|2UP HEAVY b DOWN j LIGHT|2DOWN HEAVY b UP j LIGHT",
   "2x HEAVY b j LIGHT|2m UP HEAVY b p DOWN LIGHT|2p UP HEAVY b m DOWN LIGHT",
   "2m DOWN HEAVY b p UP LIGHT|2p DOWN HEAVY b m UP LIGHT|2DOWN LIGHT b UP j HEAVY",
   "2UP LIGHT b DOWN j HEAVY|2p LIGHT b m x HEAVY|2m LIGHT b p x HEAVY|2HEAVY x b j",
   "2LIGHT g DASH j|2HEAVY g DASH j|2LIGHT g DASH x|2HEAVY g DASH x|2g j|3x|2DOWN SINGLE b p g",
   "3g b p SINGLE|2g DOWN b p|2DOWN SINGLE b m g|3g b m SINGLE|2g DOWN b m|2UP SINGLE b p g",
   "3g b p SINGLE|2g UP b p|2UP SINGLE b m g|3g b m SINGLE|2g UP b m|2x SINGLE b p g|3g b p SINGLE",
   "2g x b p|2x SINGLE b m g|3g b m SINGLE|2g x b m|2DOWN SINGLE b j g|3g b j SINGLE|2g DOWN b j",
   "2UP SINGLE b j g|3g b j SINGLE|2g UP b j|2x SINGLE b j g|3g b j SINGLE|2g x b j",
   "2LIGHT ARC DOWN b p|6m|4UP b m|6p|3DIAGONAL UPPER p TO LOWER m|5m TO LOWER p|4CROSS|3m|3UP|3p",
   "3DOWN|2HEAVY m|3UP|3p|3DOWN|2LIGHT m b HEAVY p|3UP b HEAVY DOWN|2HEAVY m b LIGHT p",
   "3UP b LIGHT DOWN|0UPPER HALF BLOCK|0LOWER ONE EIGHTH BLOCK|2QUARTER BLOCK|1v EIGHTHS BLOCK",
   "1HALF BLOCK|1FIVE EIGHTHS BLOCK|1v QUARTERS BLOCK|1SEVEN EIGHTHS BLOCK|0FULL BLOCK",
   "0m SEVEN EIGHTHS BLOCK|1v QUARTERS BLOCK|1FIVE EIGHTHS BLOCK|1HALF BLOCK|1v EIGHTHS BLOCK",
   "1ONE QUARTER BLOCK|2EIGHTH BLOCK|0p HALF BLOCK|0LIGHT SHADE|0MEDIUM SHADE|0DARK SHADE",
   "0UPPER ONE EIGHTH BLOCK|0p ONE EIGHTH BLOCK|0QUADRANT LOWER m|2p|1UPPER m|3b LOWER m b LOWER p",
   "5p|4UPPER p b LOWER m|8p|2p|3b LOWER m|6b LOWER p|0e SQUARE|0y SQUARE|2z ROUNDED CORNERS",
   "2CONTAINING e s SQUARE|0SQUARE z j FILL|2x FILL|2ORTHOGONAL CROSSHATCH FILL",
   "2UPPER m TO LOWER p FILL|3p TO LOWER m FILL|2DIAGONAL CROSSHATCH FILL|0e s SQUARE|0y s SQUARE",
   "0e RECTANGLE|0y RECTANGLE|0e x RECTANGLE|0y x RECTANGLE|0e PARALLELOGRAM|0y PARALLELOGRAM",
   "0e UP-POINTING TRIANGLE|0y UP-POINTING TRIANGLE|0e UP-POINTING s TRIANGLE",
   "0y UP-POINTING s TRIANGLE|0e RIGHT-POINTING TRIANGLE|0y RIGHT-POINTING TRIANGLE",
   "0e RIGHT-POINTING s TRIANGLE|0y RIGHT-POINTING s TRIANGLE|0e RIGHT-POINTING POINTER",
   "0y RIGHT-POINTING POINTER|0e DOWN-POINTING TRIANGLE|0y DOWN-POINTING TRIANGLE",
   "0e DOWN-POINTING s TRIANGLE|0y DOWN-POINTING s TRIANGLE|0e LEFT-POINTING TRIANGLE",
   "0y LEFT-POINTING TRIANGLE|0e LEFT-POINTING s TRIANGLE|0y LEFT-POINTING s TRIANGLE",
   "0e LEFT-POINTING POINTER|0y LEFT-POINTING POINTER|0e DIAMOND|0y DIAMOND",
   "2CONTAINING e s DIAMOND|0FISHEYE|0LOZENGE|0y CIRCLE|0DOTTED CIRCLE|0CIRCLE z x FILL|0BULLSEYE",
   "0e CIRCLE|0CIRCLE z m HALF e|2p HALF e|2LOWER HALF e|2UPPER HALF e|3p QUADRANT e",
   "2ALL BUT UPPER m QUADRANT e|0m HALF e CIRCLE|0p HALF e CIRCLE|0INVERSE BULLET|1y CIRCLE",
   "0UPPER HALF INVERSE y CIRCLE|0LOWER HALF INVERSE y CIRCLE|0UPPER m QUADRANT CIRCULAR ARC",
   "1p QUADRANT CIRCULAR ARC|0LOWER p QUADRANT CIRCULAR ARC|1m QUADRANT CIRCULAR ARC",
   "0UPPER HALF CIRCLE|0LOWER HALF CIRCLE|0e LOWER p TRIANGLE|2m TRIANGLE|1UPPER m TRIANGLE",
   "2p TRIANGLE|0y BULLET|0SQUARE z m HALF e|2p HALF e|2UPPER m DIAGONAL HALF e",
   "2LOWER p DIAGONAL HALF e|0y SQUARE z x BISECTING LINE|1UP-POINTING TRIANGLE z DOT",
   "0UP-POINTING TRIANGLE z m HALF e|3p HALF e|0LARGE CIRCLE|0y SQUARE z UPPER m QUADRANT",
   "3LOWER m QUADRANT|4p QUADRANT|3UPPER p QUADRANT|1CIRCLE z UPPER m QUADRANT|3LOWER m QUADRANT",
   "4p QUADRANT|3UPPER p QUADRANT|0UPPER m TRIANGLE|1p TRIANGLE|0LOWER m TRIANGLE|0y MEDIUM SQUARE",
   "0e MEDIUM SQUARE|0y MEDIUM s SQUARE|0e MEDIUM s SQUARE|0LOWER p TRIANGLE|0e SUN z RAYS|0CLOUD",
   "0UMBRELLA|0SNOWMAN|0COMET|0e STAR|0y STAR|0LIGHTNING|0THUNDERSTORM|0SUN|0ASCENDING NODE",
   "0DESCENDING NODE|0CONJUNCTION|0OPPOSITION|0e TELEPHONE|0y TELEPHONE|0BALLOT BOX|2z CHECK|3X",
   "0SALTIRE|0UMBRELLA z RAIN DROPS|0HOT BEVERAGE|0y SHOGI PIECE|0e SHOGI PIECE|0SHAMROCK",
   "0REVERSED ROTATED FLORAL HEART BULLET|0e m POINTING INDEX|1p POINTING INDEX",
   "0y m POINTING INDEX|1UP POINTING INDEX|1p POINTING INDEX|1DOWN POINTING INDEX",
   "0SKULL b CROSSBONES|0CAUTION r|0RADIOACTIVE r|0BIOHAZARD r|0CADUCEUS|0ANKH|0ORTHODOX CROSS",
   "0CHI RHO|0CROSS OF LORRAINE|2JERUSALEM|0STAR b CRESCENT|0FARSI u|0ADI SHAKTI|0HAMMER b SICKLE",
   "0PEACE u|0YIN YANG|0TRIGRAM FOR HEAVEN|2LAKE|2FIRE|2THUNDER|2WIND|2WATER|2MOUNTAIN|2EARTH",
   "0WHEEL OF DHARMA|0y FROWNING FACE|1SMILING FACE|0e SMILING FACE|0y SUN z RAYS",
   "0FIRST QUARTER MOON|0LAST QUARTER MOON|0MERCURY|0FEMALE r|0EARTH|0MALE r|0JUPITER|0SATURN",
   "0URANUS|0NEPTUNE|0PLUTO|0ARIES|0TAURUS|0GEMINI|0CANCER|0LEO|0VIRGO|0LIBRA|0SCORPIUS",
   "0SAGITTARIUS|0CAPRICORN|0AQUARIUS|0PISCES|0y CHESS KING|2QUEEN|2ROOK|2BISHOP|2KNIGHT|2PAWN",
   "0e CHESS KING|2QUEEN|2ROOK|2BISHOP|2KNIGHT|2PAWN|1SPADE SUIT|0y HEART SUIT|1DIAMOND SUIT",
   "0e CLUB SUIT|0y SPADE SUIT|0e HEART SUIT|1DIAMOND SUIT|0y CLUB SUIT|0HOT SPRINGS|0QUARTER NOTE",
   "0EIGHTH NOTE|0BEAMED EIGHTH NOTES|1SIXTEENTH NOTES|0MUSIC FLAT r|1NATURAL r|1SHARP r",
   "0WEST SYRIAC CROSS|0EAST SYRIAC CROSS|0UNIVERSAL RECYCLING u|0RECYCLING u FOR TYPE-1 PLASTICS",
   "3TYPE-2 PLASTICS|3TYPE-3 PLASTICS|3TYPE-4 PLASTICS|3TYPE-5 PLASTICS|3TYPE-6 PLASTICS",
   "3TYPE-7 PLASTICS|3GENERIC MATERIALS|0e UNIVERSAL RECYCLING u|0RECYCLED PAPER u",
   "0PARTIALLY-RECYCLED PAPER u|0PERMANENT PAPER r|0WHEELCHAIR u|0DIE FACE-1|1FACE-2|1FACE-3",
   "1FACE-4|1FACE-5|1FACE-6|0y CIRCLE z DOT p|3TWO DOTS|0e CIRCLE z y DOT p|3TWO y DOTS",
   "0MONOGRAM FOR YANG|2YIN|0DIGRAM FOR GREATER YANG|2LESSER YIN|3YANG|2GREATER YIN|0y FLAG",
   "0e FLAG|0HAMMER b PICK|0ANCHOR|0CROSSED SWORDS|0STAFF OF AESCULAPIUS|0SCALES|0ALEMBIC|0FLOWER",
   "0GEAR|0STAFF OF HERMES|0ATOM u|0FLEUR-DE-LIS|0OUTLINED y STAR|0v LINES CONVERGING p|3m",
   "0WARNING r|0HIGH VOLTAGE r|0DOUBLED FEMALE r|1MALE r|0INTERLOCKED FEMALE b MALE r",
   "0MALE b FEMALE r|1z t r|3b MALE b FEMALE r|0x MALE z t r|0j MALE z t r|0MEDIUM y CIRCLE",
   "1e CIRCLE|1s y CIRCLE|0MARRIAGE u|0DIVORCE u|0UNMARRIED PARTNERSHIP u|0COFFIN|0FUNERAL URN",
   "0NEUTER|0CERES|0PALLAS|0JUNO|0VESTA|0CHIRON|0e MOON LILITH|0SEXTILE|0SEMISEXTILE|0QUINCUNX",
   "0SESQUIQUADRATE|0SOCCER BALL|0BASEBALL|0SQUARED KEY|0y DRAUGHTS MAN|2KING|0e DRAUGHTS MAN",
   "2KING|0SNOWMAN WITHOUT SNOW|0SUN BEHIND CLOUD|0RAIN|0e SNOWMAN|0THUNDER CLOUD b RAIN",
   "0TURNED y SHOGI PIECE|1e SHOGI PIECE|0y DIAMOND IN SQUARE|0CROSSING LANES|0DISABLED CAR",
   "0OPHIUCHUS|0PICK|0CAR SLIDING|0HELMET z y CROSS|0CIRCLED CROSSING LANES|0CHAINS|0NO ENTRY",
   "0ALTERNATE ONE-WAY m WAY TRAFFIC|0e TWO-WAY m WAY TRAFFIC|0y TWO-WAY m WAY TRAFFIC",
   "0e m LANE MERGE|0y m LANE MERGE|0DRIVE SLOW r|0HEAVY y DOWN-POINTING TRIANGLE|0m CLOSED ENTRY",
   "0SQUARED SALTIRE|0FALLING DIAGONAL IN y CIRCLE IN e SQUARE|0e TRUCK|0RESTRICTED m ENTRY-1",
   "2ENTRY-2|0ASTRONOMICAL u FOR URANUS|0HEAVY CIRCLE z t b TWO DOTS a|0PENTAGRAM",
   "0RIGHT-HANDED INTERLACED PENTAGRAM|0LEFT-HANDED INTERLACED PENTAGRAM|0INVERTED PENTAGRAM",
   "0e CROSS ON SHIELD|0SHINTO SHRINE|0CHURCH|0CASTLE|0HISTORIC SITE|0GEAR WITHOUT HUB|1z HANDLES",
   "0MAP u FOR LIGHTHOUSE|0MOUNTAIN|0UMBRELLA ON GROUND|0FOUNTAIN|0FLAG IN HOLE|0FERRY|0SAILBOAT",
   "0SQUARE FOUR CORNERS|0SKIER|0ICE SKATE|0PERSON z BALL|0TENT|0JAPANESE BANK u",
   "0HEADSTONE GRAVEYARD u|0FUEL PUMP|0CUP ON e SQUARE|0y FLAG z j MIDDLE e STRIPE",
   "0e SAFETY SCISSORS|0UPPER BLADE SCISSORS|0e SCISSORS|0LOWER BLADE SCISSORS|0y SCISSORS",
   "1HEAVY CHECK MARK|0TELEPHONE LOCATION r|0TAPE DRIVE|0AIRPLANE|0ENVELOPE|0RAISED FIST|1HAND",
   "0VICTORY HAND|0WRITING HAND|0LOWER p PENCIL|0PENCIL|0UPPER p PENCIL|0y NIB|0e NIB|0CHECK MARK",
   "0HEAVY CHECK MARK|0MULTIPLICATION X|0HEAVY MULTIPLICATION X|0BALLOT X|0HEAVY BALLOT X",
   "0OUTLINED GREEK CROSS|0HEAVY GREEK CROSS|0OPEN CENTRE CROSS|0HEAVY OPEN CENTRE CROSS",
   "0LATIN CROSS|0SHADOWED y LATIN CROSS|0OUTLINED LATIN CROSS|0MALTESE CROSS|0STAR OF DAVID",
   "0FOUR TEARDROP-SPOKED ASTERISK|1BALLOON-SPOKED ASTERISK|0HEAVY FOUR BALLOON-SPOKED ASTERISK",
   "0FOUR CLUB-SPOKED ASTERISK|0e FOUR POINTED STAR|0y FOUR POINTED STAR|0SPARKLES",
   "0STRESS OUTLINED y STAR|0CIRCLED y STAR|0OPEN CENTRE e STAR|0e CENTRE y STAR|0OUTLINED e STAR",
   "0HEAVY OUTLINED e STAR|0PINWHEEL STAR|0SHADOWED y STAR|0HEAVY ASTERISK|0OPEN CENTRE ASTERISK",
   "0EIGHT SPOKED ASTERISK|1POINTED e STAR|2PINWHEEL STAR|0SIX POINTED e STAR",
   "0EIGHT POINTED RECTILINEAR e STAR|0HEAVY EIGHT POINTED RECTILINEAR e STAR",
   "0TWELVE POINTED e STAR|0SIXTEEN POINTED ASTERISK|0TEARDROP-SPOKED ASTERISK",
   "0OPEN CENTRE TEARDROP-SPOKED ASTERISK|0HEAVY TEARDROP-SPOKED ASTERISK",
   "0SIX PETALLED e b y FLORETTE|0e FLORETTE|0y FLORETTE|0EIGHT PETALLED OUTLINED e FLORETTE",
   "0CIRCLED OPEN CENTRE EIGHT POINTED STAR|0HEAVY TEARDROP-SPOKED PINWHEEL ASTERISK|0SNOWFLAKE",
   "0TIGHT TRIFOLIATE SNOWFLAKE|0HEAVY CHEVRON SNOWFLAKE|0SPARKLE|0HEAVY SPARKLE",
   "0BALLOON-SPOKED ASTERISK|0EIGHT TEARDROP-SPOKED PROPELLER ASTERISK",
   "0HEAVY EIGHT TEARDROP-SPOKED PROPELLER ASTERISK|0CROSS MARK|0SHADOWED y CIRCLE",
   "0NEGATIVE SQUARED CROSS MARK|0LOWER p DROP-SHADOWED y SQUARE|0UPPER p DROP-SHADOWED y SQUARE",
   "0LOWER p SHADOWED y SQUARE|0UPPER p SHADOWED y SQUARE|0e QUESTION MARK ORNAMENT",
   "0y QUESTION MARK ORNAMENT|1EXCLAMATION MARK ORNAMENT|0e DIAMOND MINUS y X",
   "0HEAVY EXCLAMATION MARK u|0LIGHT x BAR|0MEDIUM x BAR|0HEAVY x BAR",
   "1SINGLE TURNED COMMA QUOTATION MARK ORNAMENT|2COMMA QUOTATION MARK ORNAMENT",
   "1g TURNED COMMA QUOTATION MARK ORNAMENT|2COMMA QUOTATION MARK ORNAMENT",
   "1LOW SINGLE COMMA QUOTATION MARK ORNAMENT|2g COMMA QUOTATION MARK ORNAMENT",
   "0CURVED STEM PARAGRAPH r ORNAMENT|0HEAVY EXCLAMATION MARK ORNAMENT",
   "1HEART EXCLAMATION MARK ORNAMENT|1e HEART|0ROTATED HEAVY e HEART BULLET|0FLORAL HEART",
   "0ROTATED FLORAL HEART BULLET|0MEDIUM m PARENTHESIS ORNAMENT|1p PARENTHESIS ORNAMENT",
   "1FLATTENED m PARENTHESIS ORNAMENT|2p PARENTHESIS ORNAMENT",
   "1LEFT-POINTING ANGLE BRACKET ORNAMENT|1RIGHT-POINTING ANGLE BRACKET ORNAMENT",
   "0HEAVY LEFT-POINTING ANGLE QUOTATION MARK ORNAMENT",
   "1RIGHT-POINTING ANGLE QUOTATION MARK ORNAMENT|1LEFT-POINTING ANGLE BRACKET ORNAMENT",
   "1RIGHT-POINTING ANGLE BRACKET ORNAMENT|0LIGHT m TORTOISE SHELL BRACKET ORNAMENT",
   "1p TORTOISE SHELL BRACKET ORNAMENT|0MEDIUM m CURLY BRACKET ORNAMENT|1p CURLY BRACKET ORNAMENT",
   "0DINGBAT NEGATIVE CIRCLED DIGIT ONE|4TWO|4v|4FOUR|4FIVE|4SIX|4SEVEN|4EIGHT|4NINE|3NUMBER TEN",
   "1CIRCLED SANS-SERIF DIGIT ONE|4TWO|4v|4FOUR|4FIVE|4SIX|4SEVEN|4EIGHT|4NINE|3NUMBER TEN",
   "1NEGATIVE CIRCLED SANS-SERIF DIGIT ONE|5TWO|5v|5FOUR|5FIVE|5SIX|5SEVEN|5EIGHT|5NINE",
   "4NUMBER TEN|0HEAVY WIDE-HEADED q c|1PLUS r|1MINUS r|1DIVISION r|1SOUTH EAST c|1q c",
   "1NORTH EAST c|0DRAFTING POINT q c|0HEAVY ROUND-TIPPED q c|0w q c|0HEAVY w q c|0DASHED w q c",
   "0HEAVY DASHED w q c|0e q c|0THREE-D TOP-LIGHTED q ARROWHEAD|1BOTTOM-LIGHTED q ARROWHEAD",
   "0e q ARROWHEAD|0HEAVY e CURVED DOWNWARDS b q c|3UPWARDS b q c|0SQUAT e q c",
   "0HEAVY CONCAVE-POINTED e q c|0RIGHT-SHADED y q c|0LEFT-SHADED y q c",
   "0BACK-TILTED SHADOWED y q c|0FRONT-TILTED SHADOWED y q c|0HEAVY LOWER RIGHT-SHADOWED y q c",
   "1UPPER RIGHT-SHADOWED y q c|0NOTCHED LOWER RIGHT-SHADOWED y q c|0CURLY LOOP",
   "0NOTCHED UPPER RIGHT-SHADOWED y q c|0CIRCLED HEAVY y q c|0WHITE-FEATHERED q c",
   "0BLACK-FEATHERED SOUTH EAST c|1q c|1NORTH EAST c|0HEAVY BLACK-FEATHERED SOUTH EAST c|2q c",
   "2NORTH EAST c|0TEARDROP-BARBED q c|0HEAVY TEARDROP-SHANKED q c|0WEDGE-TAILED q c",
   "0HEAVY WEDGE-TAILED q c|0OPEN-OUTLINED q c|0g CURLY LOOP"]

end CharacterName
end Text
end Oneliner
