namespace Oneliner
namespace Text
namespace CharacterName

/-!
Names of characters: the Latin, Greek and Cyrillic alphabets and what is written with them.
-/

/-- The names of the characters from 0 to 52F, in short form. -/
def alphabets : List String :=
  ["20=0SPACE|0EXCLAMATION MARK|0QUOTATION MARK|0NUMBER r|0DOLLAR r|0PERCENT r|0AMPERSAND",
   "0APOSTROPHE|0m PARENTHESIS|0p PARENTHESIS|0ASTERISK|0PLUS r|0COMMA|0HYPHEN-MINUS|0FULL STOP",
   "0SOLIDUS|0DIGIT ZERO|1ONE|1TWO|1v|1FOUR|1FIVE|1SIX|1SEVEN|1EIGHT|1NINE|0COLON|0SEMICOLON",
   "0LESS-THAN r|0EQUALS r|0GREATER-THAN r|0QUESTION MARK|0COMMERCIAL AT|0LATIN f o A|3B|3C|3D|3E",
   "3F|3G|3H|3I|3J|3K|3L|3M|3N|3O|3P|3Q|3R|3S|3T|3U|3V|3W|3X|3Y|3Z|0m SQUARE BRACKET",
   "0REVERSE SOLIDUS|0p SQUARE BRACKET|0CIRCUMFLEX ACCENT|0LOW LINE|0GRAVE ACCENT|0LATIN s o A|3B",
   "3C|3D|3E|3F|3G|3H|3I|3J|3K|3L|3M|3N|3O|3P|3Q|3R|3S|3T|3U|3V|3W|3X|3Y|3Z|0m CURLY BRACKET",
   "0x LINE|0p CURLY BRACKET|0TILDE|A0=0NO-BREAK SPACE|0INVERTED EXCLAMATION MARK|0CENT r|0POUND r",
   "0CURRENCY r|0YEN r|0BROKEN BAR|0SECTION r|0DIAERESIS|0COPYRIGHT r|0FEMININE ORDINAL INDICATOR",
   "0LEFT-POINTING g ANGLE QUOTATION MARK|0NOT r|0SOFT HYPHEN|0REGISTERED r|0MACRON|0DEGREE r",
   "0PLUS-MINUS r|0SUPERSCRIPT TWO|1v|0ACUTE ACCENT|0MICRO r|0PILCROW r|0MIDDLE DOT|0CEDILLA",
   "0SUPERSCRIPT ONE|0MASCULINE ORDINAL INDICATOR|0RIGHT-POINTING g ANGLE QUOTATION MARK",
   "0VULGAR FRACTION ONE QUARTER|3HALF|2v QUARTERS|0INVERTED QUESTION MARK|0LATIN f o A z GRAVE",
   "5ACUTE|5CIRCUMFLEX|5TILDE|5DIAERESIS|5RING a|3AE|3C z CEDILLA|3E z GRAVE|5ACUTE|5CIRCUMFLEX",
   "5DIAERESIS|3I z GRAVE|5ACUTE|5CIRCUMFLEX|5DIAERESIS|3ETH|3N z TILDE|3O z GRAVE|5ACUTE",
   "5CIRCUMFLEX|5TILDE|5DIAERESIS|0MULTIPLICATION r|0LATIN f o O z t|3U z GRAVE|5ACUTE|5CIRCUMFLEX",
   "5DIAERESIS|3Y z ACUTE|3THORN|1s o SHARP S|3A z GRAVE|5ACUTE|5CIRCUMFLEX|5TILDE|5DIAERESIS",
   "5RING a|3AE|3C z CEDILLA|3E z GRAVE|5ACUTE|5CIRCUMFLEX|5DIAERESIS|3I z GRAVE|5ACUTE",
   "5CIRCUMFLEX|5DIAERESIS|3ETH|3N z TILDE|3O z GRAVE|5ACUTE|5CIRCUMFLEX|5TILDE|5DIAERESIS",
   "0DIVISION r|0LATIN s o O z t|3U z GRAVE|5ACUTE|5CIRCUMFLEX|5DIAERESIS|3Y z ACUTE|3THORN",
   "3Y z DIAERESIS|1f o A z MACRON|1s o A z MACRON|1f o A z BREVE|1s o A z BREVE|1f o A z OGONEK",
   "1s o A z OGONEK|1f o C z ACUTE|1s o C z ACUTE|1f o C z CIRCUMFLEX|1s o C z CIRCUMFLEX",
   "1f o C z DOT a|1s o C z DOT a|1f o C z CARON|1s o C z CARON|1f o D z CARON|1s o D z CARON",
   "1f o D z t|1s o D z t|1f o E z MACRON|1s o E z MACRON|1f o E z BREVE|1s o E z BREVE",
   "1f o E z DOT a|1s o E z DOT a|1f o E z OGONEK|1s o E z OGONEK|1f o E z CARON|1s o E z CARON",
   "1f o G z CIRCUMFLEX|1s o G z CIRCUMFLEX|1f o G z BREVE|1s o G z BREVE|1f o G z DOT a",
   "1s o G z DOT a|1f o G z CEDILLA|1s o G z CEDILLA|1f o H z CIRCUMFLEX|1s o H z CIRCUMFLEX",
   "1f o H z t|1s o H z t|1f o I z TILDE|1s o I z TILDE|1f o I z MACRON|1s o I z MACRON",
   "1f o I z BREVE|1s o I z BREVE|1f o I z OGONEK|1s o I z OGONEK|1f o I z DOT a|1s o DOTLESS I",
   "1f LIGATURE IJ|1s LIGATURE IJ|1f o J z CIRCUMFLEX|1s o J z CIRCUMFLEX|1f o K z CEDILLA",
   "1s o K z CEDILLA|3KRA|1f o L z ACUTE|1s o L z ACUTE|1f o L z CEDILLA|1s o L z CEDILLA",
   "1f o L z CARON|1s o L z CARON|1f o L z MIDDLE DOT|1s o L z MIDDLE DOT|1f o L z t|1s o L z t",
   "1f o N z ACUTE|1s o N z ACUTE|1f o N z CEDILLA|1s o N z CEDILLA|1f o N z CARON|1s o N z CARON",
   "4PRECEDED BY APOSTROPHE|1f o ENG|1s o ENG|1f o O z MACRON|1s o O z MACRON|1f o O z BREVE",
   "1s o O z BREVE|1f o O z g ACUTE|1s o O z g ACUTE|1f LIGATURE OE|1s LIGATURE OE|1f o R z ACUTE",
   "1s o R z ACUTE|1f o R z CEDILLA|1s o R z CEDILLA|1f o R z CARON|1s o R z CARON|1f o S z ACUTE",
   "1s o S z ACUTE|1f o S z CIRCUMFLEX|1s o S z CIRCUMFLEX|1f o S z CEDILLA|1s o S z CEDILLA",
   "1f o S z CARON|1s o S z CARON|1f o T z CEDILLA|1s o T z CEDILLA|1f o T z CARON|1s o T z CARON",
   "1f o T z t|1s o T z t|1f o U z TILDE|1s o U z TILDE|1f o U z MACRON|1s o U z MACRON",
   "1f o U z BREVE|1s o U z BREVE|1f o U z RING a|1s o U z RING a|1f o U z g ACUTE",
   "1s o U z g ACUTE|1f o U z OGONEK|1s o U z OGONEK|1f o W z CIRCUMFLEX|1s o W z CIRCUMFLEX",
   "1f o Y z CIRCUMFLEX|1s o Y z CIRCUMFLEX|1f o Y z DIAERESIS|3Z z ACUTE|1s o Z z ACUTE",
   "1f o Z z DOT a|1s o Z z DOT a|1f o Z z CARON|1s o Z z CARON|3LONG S|3B z t|1f o B z HOOK",
   "5TOPBAR|1s o B z TOPBAR|1f o TONE SIX|1s o TONE SIX|1f o OPEN O|3C z HOOK|1s o C z HOOK",
   "1f o AFRICAN D|3D z HOOK|5TOPBAR|1s o D z TOPBAR|3TURNED DELTA|1f o REVERSED E|3SCHWA|3OPEN E",
   "3F z HOOK|1s o F z HOOK|1f o G z HOOK|3GAMMA|1s o HV|1f o IOTA|3I z t|3K z HOOK|1s o K z HOOK",
   "3L z BAR|3LAMBDA z t|1f o TURNED M|3N z m HOOK|1s o N z LONG p LEG|1f o O z MIDDLE TILDE|5HORN",
   "1s o O z HORN|1f o OI|1s o OI|1f o P z HOOK|1s o P z HOOK|1o YR|1f o TONE TWO|1s o TONE TWO",
   "1f o ESH|1o REVERSED ESH LOOP|1s o T z PALATAL HOOK|1f o T z HOOK|1s o T z HOOK",
   "1f o T z RETROFLEX HOOK|3U z HORN|1s o U z HORN|1f o UPSILON|3V z HOOK|3Y z HOOK|1s o Y z HOOK",
   "1f o Z z t|1s o Z z t|1f o EZH|4REVERSED|1s o EZH REVERSED|4z TAIL|1o TWO z t|1f o TONE FIVE",
   "1s o TONE FIVE|1o INVERTED GLOTTAL STOP z t|2WYNN|2DENTAL CLICK|2LATERAL CLICK|2ALVEOLAR CLICK",
   "2RETROFLEX CLICK|1f o DZ z CARON|3D z s o Z z CARON|1s o DZ z CARON|1f o LJ|3L z s o J|1s o LJ",
   "1f o NJ|3N z s o J|1s o NJ|1f o A z CARON|1s o A z CARON|1f o I z CARON|1s o I z CARON",
   "1f o O z CARON|1s o O z CARON|1f o U z CARON|1s o U z CARON|1f o U z DIAERESIS b MACRON",
   "1s o U z DIAERESIS b MACRON|1f o U z DIAERESIS b ACUTE|1s o U z DIAERESIS b ACUTE",
   "1f o U z DIAERESIS b CARON|1s o U z DIAERESIS b CARON|1f o U z DIAERESIS b GRAVE",
   "1s o U z DIAERESIS b GRAVE|3TURNED E|1f o A z DIAERESIS b MACRON|1s o A z DIAERESIS b MACRON",
   "1f o A z DOT a b MACRON|1s o A z DOT a b MACRON|1f o AE z MACRON|1s o AE z MACRON|1f o G z t",
   "1s o G z t|1f o G z CARON|1s o G z CARON|1f o K z CARON|1s o K z CARON|1f o O z OGONEK",
   "1s o O z OGONEK|1f o O z OGONEK b MACRON|1s o O z OGONEK b MACRON|1f o EZH z CARON",
   "1s o EZH z CARON|3J z CARON|1f o DZ|3D z s o Z|1s o DZ|1f o G z ACUTE|1s o G z ACUTE",
   "1f o HWAIR|3WYNN|3N z GRAVE|1s o N z GRAVE|1f o A z RING a b ACUTE|1s o A z RING a b ACUTE",
   "1f o AE z ACUTE|1s o AE z ACUTE|1f o O z t b ACUTE|1s o O z t b ACUTE|1f o A z g GRAVE",
   "1s o A z g GRAVE|1f o A z INVERTED BREVE|1s o A z INVERTED BREVE|1f o E z g GRAVE",
   "1s o E z g GRAVE|1f o E z INVERTED BREVE|1s o E z INVERTED BREVE|1f o I z g GRAVE",
   "1s o I z g GRAVE|1f o I z INVERTED BREVE|1s o I z INVERTED BREVE|1f o O z g GRAVE",
   "1s o O z g GRAVE|1f o O z INVERTED BREVE|1s o O z INVERTED BREVE|1f o R z g GRAVE",
   "1s o R z g GRAVE|1f o R z INVERTED BREVE|1s o R z INVERTED BREVE|1f o U z g GRAVE",
   "1s o U z g GRAVE|1f o U z INVERTED BREVE|1s o U z INVERTED BREVE|1f o S z COMMA d",
   "1s o S z COMMA d|1f o T z COMMA d|1s o T z COMMA d|1f o YOGH|1s o YOGH|1f o H z CARON",
   "1s o H z CARON|1f o N z LONG p LEG|1s o D z CURL|1f o OU|1s o OU|1f o Z z HOOK|1s o Z z HOOK",
   "1f o A z DOT a|1s o A z DOT a|1f o E z CEDILLA|1s o E z CEDILLA|1f o O z DIAERESIS b MACRON",
   "1s o O z DIAERESIS b MACRON|1f o O z TILDE b MACRON|1s o O z TILDE b MACRON|1f o O z DOT a",
   "1s o O z DOT a|1f o O z DOT a b MACRON|1s o O z DOT a b MACRON|1f o Y z MACRON|1s o Y z MACRON",
   "3L z CURL|3N z CURL|3T z CURL|3DOTLESS J|3DB DIGRAPH|3QP DIGRAPH|1f o A z t|3C z t|1s o C z t",
   "1f o L z BAR|3T z DIAGONAL t|1s o S z SWASH TAIL|3Z z SWASH TAIL|1f o GLOTTAL STOP",
   "1s o GLOTTAL STOP|1f o B z t|3U BAR|3TURNED V|3E z t|1s o E z t|1f o J z t|1s o J z t",
   "1f o s Q z HOOK TAIL|1s o Q z HOOK TAIL|1f o R z t|1s o R z t|1f o Y z t|1s o Y z t|3TURNED A",
   "3ALPHA|3TURNED ALPHA|3B z HOOK|3OPEN O|3C z CURL|3D z TAIL|5HOOK|3REVERSED E|3SCHWA|4z HOOK",
   "3OPEN E|3REVERSED OPEN E|6z HOOK|3CLOSED REVERSED OPEN E|3DOTLESS J z t|3G z HOOK|3SCRIPT G",
   "1o s f G|1s o GAMMA|3RAMS HORN|3TURNED H|3H z HOOK|3HENG z HOOK|3I z t|3IOTA|1o s f I",
   "1s o L z MIDDLE TILDE|5BELT|5RETROFLEX HOOK|3LEZH|3TURNED M|5z LONG LEG|3M z HOOK|3N z m HOOK",
   "5RETROFLEX HOOK|1o s f N|1s o BARRED O|1o s f OE|1s o CLOSED OMEGA|3PHI|3TURNED R|5z LONG LEG",
   "6HOOK|3R z LONG LEG|5TAIL|5FISHHOOK|3REVERSED R z FISHHOOK|1o s f R|4INVERTED R|1s o S z HOOK",
   "3ESH|3DOTLESS J z t b HOOK|3SQUAT REVERSED ESH|3ESH z CURL|3TURNED T|3T z RETROFLEX HOOK",
   "3U BAR|3UPSILON|3V z HOOK|3TURNED V|4W|4Y|1o s f Y|1s o Z z RETROFLEX HOOK|5CURL|3EZH|4z CURL",
   "1o GLOTTAL STOP|2PHARYNGEAL VOICED FRICATIVE|2INVERTED GLOTTAL STOP|2STRETCHED C",
   "2BILABIAL CLICK|2s f B|1s o CLOSED OPEN E|1o s f G z HOOK|4H|1s o J z CROSSED-TAIL|3TURNED K",
   "1o s f L|1s o Q z HOOK|1o GLOTTAL STOP z t|2REVERSED GLOTTAL STOP z t|1s o DZ DIGRAPH",
   "3DEZH DIGRAPH|3DZ DIGRAPH z CURL|3TS DIGRAPH|3TESH DIGRAPH|3TC DIGRAPH z CURL|3FENG DIGRAPH",
   "3LS DIGRAPH|3LZ DIGRAPH|1o BILABIAL PERCUSSIVE|2BIDENTAL PERCUSSIVE|1s o TURNED H z FISHHOOK",
   "7b TAIL|0MODIFIER o s H|4z HOOK|3J|3R|3TURNED R|5z HOOK|3f INVERTED R|3W|3Y|2PRIME|2g PRIME",
   "2TURNED COMMA|2APOSTROPHE|2REVERSED COMMA|2p HALF RING|2m HALF RING|2GLOTTAL STOP",
   "2REVERSED GLOTTAL STOP|2m ARROWHEAD|2p ARROWHEAD|2UP ARROWHEAD|2DOWN ARROWHEAD",
   "2CIRCUMFLEX ACCENT|0CARON|0MODIFIER o x LINE|2MACRON|2ACUTE ACCENT|2GRAVE ACCENT|2LOW x LINE",
   "3MACRON|3GRAVE ACCENT|3ACUTE ACCENT|2TRIANGULAR COLON|2HALF TRIANGULAR COLON",
   "2CENTRED p HALF RING|3m HALF RING|2UP TACK|2DOWN TACK|2PLUS r|2MINUS r|0BREVE|0DOT a|0RING a",
   "0OGONEK|0s TILDE|0g ACUTE ACCENT|0MODIFIER o RHOTIC HOOK|2CROSS ACCENT|2s GAMMA|3L|3S|3X",
   "3REVERSED GLOTTAL STOP|2EXTRA-HIGH TONE BAR|2HIGH TONE BAR|2MID TONE BAR|2LOW TONE BAR",
   "2EXTRA-LOW TONE BAR|2YIN DEPARTING TONE MARK|2YANG DEPARTING TONE MARK|2VOICING|2UNASPIRATED",
   "2g APOSTROPHE|2LOW DOWN ARROWHEAD|3UP ARROWHEAD|3m ARROWHEAD|3p ARROWHEAD|3RING",
   "2MIDDLE GRAVE ACCENT|3g GRAVE ACCENT|4ACUTE ACCENT|2LOW TILDE|2RAISED COLON|2BEGIN HIGH TONE",
   "2END HIGH TONE|2BEGIN LOW TONE|2END LOW TONE|2SHELF|2OPEN SHELF|2LOW m c",
   "0COMBINING GRAVE ACCENT|1ACUTE ACCENT|1CIRCUMFLEX ACCENT|1TILDE|1MACRON|1OVERLINE|1BREVE",
   "1DOT a|1DIAERESIS|1HOOK a|1RING a|1g ACUTE ACCENT|1CARON|1x LINE a|1g x LINE a|2GRAVE ACCENT",
   "1CANDRABINDU|1INVERTED BREVE|1TURNED COMMA a|1COMMA a|1REVERSED COMMA a|1COMMA a p",
   "1GRAVE ACCENT d|1ACUTE ACCENT d|1m TACK d|1p TACK d|1m ANGLE a|1HORN|1m HALF RING d|1UP TACK d",
   "1DOWN TACK d|1PLUS r d|1MINUS r d|1PALATALIZED HOOK d|1RETROFLEX HOOK d|1DOT d|1DIAERESIS d",
   "1RING d|1COMMA d|1CEDILLA|1OGONEK|1x LINE d|1BRIDGE d|1INVERTED g ARCH d|1CARON d",
   "1CIRCUMFLEX ACCENT d|1BREVE d|1INVERTED BREVE d|1TILDE d|1MACRON d|1LOW LINE|1g LOW LINE",
   "1TILDE OVERLAY|1SHORT t OVERLAY|1LONG t OVERLAY|1SHORT SOLIDUS OVERLAY|1LONG SOLIDUS OVERLAY",
   "1p HALF RING d|1INVERTED BRIDGE d|1SQUARE d|1SEAGULL d|1X a|1x TILDE|1g OVERLINE",
   "1GRAVE TONE MARK|1ACUTE TONE MARK|1GREEK PERISPOMENI|2KORONIS|2DIALYTIKA TONOS|2YPOGEGRAMMENI",
   "1BRIDGE a|1EQUALS r d|1g x LINE d|1m ANGLE d|1NOT TILDE a|1HOMOTHETIC a|1ALMOST EQUAL TO a",
   "1m p c d|1UPWARDS c d|1GRAPHEME JOINER|1p ARROWHEAD a|1m HALF RING a|1FERMATA|1X d",
   "1m ARROWHEAD d|1p ARROWHEAD d|3b UP ARROWHEAD d|2HALF RING a|1DOT a p|1ASTERISK d|1g RING d",
   "1ZIGZAG a|1g BREVE d|3|2MACRON|3d|2TILDE|2INVERTED BREVE|2q c d|1LATIN s o A|4E|4I|4O|4U|4C|4D",
   "4H|4M|4R|4T|4V|4X|0GREEK f o HETA|1s o HETA|1f o ARCHAIC SAMPI|1s o ARCHAIC SAMPI|1NUMERAL r",
   "1LOWER NUMERAL r|1f o PAMPHYLIAN DIGAMMA|1s o PAMPHYLIAN DIGAMMA|37A=1YPOGEGRAMMENI",
   "1s REVERSED LUNATE SIGMA u|2DOTTED LUNATE SIGMA u|2REVERSED DOTTED LUNATE SIGMA u",
   "1QUESTION MARK|1f o YOT|384=1TONOS|1DIALYTIKA TONOS|1f o ALPHA z TONOS|1ANO TELEIA",
   "1f o EPSILON z TONOS|3ETA z TONOS|3IOTA z TONOS|38C=3OMICRON z TONOS|38E=3UPSILON z TONOS",
   "3OMEGA z TONOS|1s o IOTA z DIALYTIKA b TONOS|1f o ALPHA|3BETA|3GAMMA|3DELTA|3EPSILON|3ZETA",
   "3ETA|3THETA|3IOTA|3KAPPA|3LAMDA|3MU|3NU|3XI|3OMICRON|3PI|3RHO|3A3=3SIGMA|3TAU|3UPSILON|3PHI",
   "3CHI|3PSI|3OMEGA|3IOTA z DIALYTIKA|3UPSILON z DIALYTIKA|1s o ALPHA z TONOS|3EPSILON z TONOS",
   "3ETA z TONOS|3IOTA z TONOS|3UPSILON z DIALYTIKA b TONOS|3ALPHA|3BETA|3GAMMA|3DELTA|3EPSILON",
   "3ZETA|3ETA|3THETA|3IOTA|3KAPPA|3LAMDA|3MU|3NU|3XI|3OMICRON|3PI|3RHO|3h SIGMA|3SIGMA|3TAU",
   "3UPSILON|3PHI|3CHI|3PSI|3OMEGA|3IOTA z DIALYTIKA|3UPSILON z DIALYTIKA|3OMICRON z TONOS",
   "3UPSILON z TONOS|3OMEGA z TONOS|1f KAI u|1BETA u|1THETA u|1UPSILON z HOOK u|3ACUTE b HOOK u",
   "3DIAERESIS b HOOK u|1PHI u|1PI u|1KAI u|1o ARCHAIC KOPPA|1s o ARCHAIC KOPPA|1o STIGMA",
   "1s o STIGMA|1o DIGAMMA|1s o DIGAMMA|1o KOPPA|1s o KOPPA|1o SAMPI|1s o SAMPI|0COPTIC f o SHEI",
   "1s o SHEI|1f o FEI|1s o FEI|1f o KHEI|1s o KHEI|1f o HORI|1s o HORI|1f o GANGIA|1s o GANGIA",
   "1f o SHIMA|1s o SHIMA|1f o DEI|1s o DEI|0GREEK KAPPA u|1RHO u|1LUNATE SIGMA u|1o YOT",
   "1f THETA u|1LUNATE EPSILON u|1REVERSED LUNATE EPSILON u|1f o SHO|1s o SHO|1f LUNATE SIGMA u",
   "2o SAN|1s o SAN|1RHO z t u|1f REVERSED LUNATE SIGMA u|2DOTTED LUNATE SIGMA u",
   "2REVERSED DOTTED LUNATE SIGMA u|0CYRILLIC f o IE z GRAVE|3IO|3DJE|3GJE|3UKRAINIAN IE|3DZE",
   "3BYELORUSSIAN-UKRAINIAN I|3YI|3JE|3LJE|3NJE|3TSHE|3KJE|3I z GRAVE|3SHORT U|3DZHE|3A|3BE|3VE",
   "3GHE|3DE|3IE|3ZHE|3ZE|3I|3SHORT I|3KA|3EL|3EM|3EN|3O|3PE|3ER|3ES|3TE|3U|3EF|3HA|3TSE|3CHE|3SHA",
   "3SHCHA|3HARD r|3YERU|3SOFT r|3E|3YU|3YA|1s o A|3BE|3VE|3GHE|3DE|3IE|3ZHE|3ZE|3I|3SHORT I|3KA",
   "3EL|3EM|3EN|3O|3PE|3ER|3ES|3TE|3U|3EF|3HA|3TSE|3CHE|3SHA|3SHCHA|3HARD r|3YERU|3SOFT r|3E|3YU",
   "3YA|3IE z GRAVE|3IO|3DJE|3GJE|3UKRAINIAN IE|3DZE|3BYELORUSSIAN-UKRAINIAN I|3YI|3JE|3LJE|3NJE",
   "3TSHE|3KJE|3I z GRAVE|3SHORT U|3DZHE|1f o OMEGA|1s o OMEGA|1f o YAT|1s o YAT|1f o IOTIFIED E",
   "1s o IOTIFIED E|1f o LITTLE YUS|1s o LITTLE YUS|1f o IOTIFIED LITTLE YUS",
   "1s o IOTIFIED LITTLE YUS|1f o BIG YUS|1s o BIG YUS|1f o IOTIFIED BIG YUS|1s o IOTIFIED BIG YUS",
   "1f o KSI|1s o KSI|1f o PSI|1s o PSI|1f o FITA|1s o FITA|1f o IZHITSA|1s o IZHITSA",
   "1f o IZHITSA z g GRAVE ACCENT|1s o IZHITSA z g GRAVE ACCENT|1f o UK|1s o UK|1f o ROUND OMEGA",
   "1s o ROUND OMEGA|1f o OMEGA z TITLO|1s o OMEGA z TITLO|1f o OT|1s o OT|1f o KOPPA|1s o KOPPA",
   "1THOUSANDS r|0COMBINING CYRILLIC TITLO|2PALATALIZATION|2DASIA PNEUMATA|2PSILI PNEUMATA",
   "2POKRYTIE|2HUNDRED THOUSANDS r|2MILLIONS r|0CYRILLIC f o SHORT I z TAIL|1s o SHORT I z TAIL",
   "1f o SEMISOFT r|1s o SEMISOFT r|1f o ER z TICK|1s o ER z TICK|1f o GHE z UPTURN",
   "1s o GHE z UPTURN|1f o GHE z t|1s o GHE z t|1f o GHE z MIDDLE HOOK|1s o GHE z MIDDLE HOOK",
   "1f o ZHE z DESCENDER|1s o ZHE z DESCENDER|1f o ZE z DESCENDER|1s o ZE z DESCENDER",
   "1f o KA z DESCENDER|1s o KA z DESCENDER|1f o KA z x t|1s o KA z x t|1f o KA z t|1s o KA z t",
   "1f o BASHKIR KA|1s o BASHKIR KA|1f o EN z DESCENDER|1s o EN z DESCENDER|1f LIGATURE EN GHE",
   "1s LIGATURE EN GHE|1f o PE z MIDDLE HOOK|1s o PE z MIDDLE HOOK|1f o ABKHASIAN HA",
   "1s o ABKHASIAN HA|1f o ES z DESCENDER|1s o ES z DESCENDER|1f o TE z DESCENDER",
   "1s o TE z DESCENDER|1f o STRAIGHT U|1s o STRAIGHT U|1f o STRAIGHT U z t|1s o STRAIGHT U z t",
   "1f o HA z DESCENDER|1s o HA z DESCENDER|1f LIGATURE TE TSE|1s LIGATURE TE TSE",
   "1f o CHE z DESCENDER|1s o CHE z DESCENDER|1f o CHE z x t|1s o CHE z x t|1f o SHHA|1s o SHHA",
   "1f o ABKHASIAN CHE|1s o ABKHASIAN CHE|1f o ABKHASIAN CHE z DESCENDER",
   "1s o ABKHASIAN CHE z DESCENDER|1o PALOCHKA|1f o ZHE z BREVE|1s o ZHE z BREVE|1f o KA z HOOK",
   "1s o KA z HOOK|1f o EL z TAIL|1s o EL z TAIL|1f o EN z HOOK|1s o EN z HOOK|1f o EN z TAIL",
   "1s o EN z TAIL|1f o KHAKASSIAN CHE|1s o KHAKASSIAN CHE|1f o EM z TAIL|1s o EM z TAIL|3PALOCHKA",
   "1f o A z BREVE|1s o A z BREVE|1f o A z DIAERESIS|1s o A z DIAERESIS|1f LIGATURE A IE",
   "1s LIGATURE A IE|1f o IE z BREVE|1s o IE z BREVE|1f o SCHWA|1s o SCHWA|1f o SCHWA z DIAERESIS",
   "1s o SCHWA z DIAERESIS|1f o ZHE z DIAERESIS|1s o ZHE z DIAERESIS|1f o ZE z DIAERESIS",
   "1s o ZE z DIAERESIS|1f o ABKHASIAN DZE|1s o ABKHASIAN DZE|1f o I z MACRON|1s o I z MACRON",
   "1f o I z DIAERESIS|1s o I z DIAERESIS|1f o O z DIAERESIS|1s o O z DIAERESIS|1f o BARRED O",
   "1s o BARRED O|1f o BARRED O z DIAERESIS|1s o BARRED O z DIAERESIS|1f o E z DIAERESIS",
   "1s o E z DIAERESIS|1f o U z MACRON|1s o U z MACRON|1f o U z DIAERESIS|1s o U z DIAERESIS",
   "1f o U z g ACUTE|1s o U z g ACUTE|1f o CHE z DIAERESIS|1s o CHE z DIAERESIS",
   "1f o GHE z DESCENDER|1s o GHE z DESCENDER|1f o YERU z DIAERESIS|1s o YERU z DIAERESIS",
   "1f o GHE z t b HOOK|1s o GHE z t b HOOK|1f o HA z HOOK|1s o HA z HOOK|1f o HA z t|1s o HA z t",
   "1f o KOMI DE|1s o KOMI DE|1f o KOMI DJE|1s o KOMI DJE|1f o KOMI ZJE|1s o KOMI ZJE",
   "1f o KOMI DZJE|1s o KOMI DZJE|1f o KOMI LJE|1s o KOMI LJE|1f o KOMI NJE|1s o KOMI NJE",
   "1f o KOMI SJE|1s o KOMI SJE|1f o KOMI TJE|1s o KOMI TJE|1f o REVERSED ZE|1s o REVERSED ZE",
   "1f o EL z HOOK|1s o EL z HOOK|1f o LHA|1s o LHA|1f o RHA|1s o RHA|1f o YAE|1s o YAE|1f o QA",
   "1s o QA|1f o WE|1s o WE|1f o ALEUT KA|1s o ALEUT KA|1f o EL z MIDDLE HOOK",
   "1s o EL z MIDDLE HOOK|1f o EN z MIDDLE HOOK|1s o EN z MIDDLE HOOK|1f o PE z DESCENDER",
   "1s o PE z DESCENDER|1f o SHHA z DESCENDER|1s o SHHA z DESCENDER|1f o EN z m HOOK",
   "1s o EN z m HOOK|1f o DZZHE|1s o DZZHE|1f o DCHE|1s o DCHE|1f o EL z DESCENDER",
   "1s o EL z DESCENDER"]

end CharacterName
end Text
end Oneliner
