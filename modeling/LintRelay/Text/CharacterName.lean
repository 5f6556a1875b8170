/-!
# Names of characters

The names by which characters can be told in a quotation: those of letters of the
Latin, Greek and Cyrillic scripts, of digits, of signs in common use, and of the
characters that control a text, which have short names too. Case does not matter.
-/

namespace LintRelay.Text

def latinLetters : List String := [
  "A", "B", "C", "D", "E", "F", "G", "H", "I", "J", "K", "L", "M", "N", "O", "P", "Q", "R", "S",
  "T", "U", "V", "W", "X", "Y", "Z", "A WITH GRAVE", "A WITH ACUTE", "A WITH CIRCUMFLEX",
  "A WITH TILDE", "A WITH DIAERESIS", "A WITH RING ABOVE", "AE", "C WITH CEDILLA", "E WITH GRAVE",
  "E WITH ACUTE", "E WITH CIRCUMFLEX", "E WITH DIAERESIS", "I WITH GRAVE", "I WITH ACUTE",
  "I WITH CIRCUMFLEX", "I WITH DIAERESIS", "ETH", "N WITH TILDE", "O WITH GRAVE", "O WITH ACUTE",
  "O WITH CIRCUMFLEX", "O WITH TILDE", "O WITH DIAERESIS", "O WITH STROKE", "U WITH GRAVE",
  "U WITH ACUTE", "U WITH CIRCUMFLEX", "U WITH DIAERESIS", "Y WITH ACUTE", "THORN",
  "A WITH MACRON", "A WITH BREVE", "A WITH OGONEK", "C WITH ACUTE", "C WITH CIRCUMFLEX",
  "C WITH DOT ABOVE", "C WITH CARON", "D WITH CARON", "D WITH STROKE", "E WITH MACRON",
  "E WITH BREVE", "E WITH DOT ABOVE", "E WITH OGONEK", "E WITH CARON", "G WITH CIRCUMFLEX",
  "G WITH BREVE", "G WITH DOT ABOVE", "G WITH CEDILLA", "H WITH CIRCUMFLEX", "H WITH STROKE",
  "I WITH TILDE", "I WITH MACRON", "I WITH BREVE", "I WITH OGONEK", "J WITH CIRCUMFLEX",
  "K WITH CEDILLA", "L WITH ACUTE", "L WITH CEDILLA", "L WITH CARON", "L WITH MIDDLE DOT",
  "L WITH STROKE", "N WITH ACUTE", "N WITH CEDILLA", "N WITH CARON", "ENG", "O WITH MACRON",
  "O WITH BREVE", "O WITH DOUBLE ACUTE", "R WITH ACUTE", "R WITH CEDILLA", "R WITH CARON",
  "S WITH ACUTE", "S WITH CIRCUMFLEX", "S WITH CEDILLA", "S WITH CARON", "T WITH CEDILLA",
  "T WITH CARON", "T WITH STROKE", "U WITH TILDE", "U WITH MACRON", "U WITH BREVE",
  "U WITH RING ABOVE", "U WITH DOUBLE ACUTE", "U WITH OGONEK", "W WITH CIRCUMFLEX",
  "Y WITH CIRCUMFLEX", "Y WITH DIAERESIS", "Z WITH ACUTE", "Z WITH DOT ABOVE", "Z WITH CARON"]

def latinCapitals : List String := [
  "I WITH DOT ABOVE", "SHARP S"]

def latinSmalls : List String := [
  "SHARP S", "DOTLESS I", "KRA", "N PRECEDED BY APOSTROPHE", "LONG S"]

def greekLetters : List String := [
  "ALPHA WITH TONOS", "EPSILON WITH TONOS", "ETA WITH TONOS", "IOTA WITH TONOS",
  "OMICRON WITH TONOS", "UPSILON WITH TONOS", "OMEGA WITH TONOS", "ALPHA", "BETA", "GAMMA",
  "DELTA", "EPSILON", "ZETA", "ETA", "THETA", "IOTA", "KAPPA", "LAMDA", "MU", "NU", "XI",
  "OMICRON", "PI", "RHO", "SIGMA", "TAU", "UPSILON", "PHI", "CHI", "PSI", "OMEGA",
  "IOTA WITH DIALYTIKA", "UPSILON WITH DIALYTIKA"]

def greekSmalls : List String := [
  "IOTA WITH DIALYTIKA AND TONOS", "UPSILON WITH DIALYTIKA AND TONOS", "FINAL SIGMA"]

def cyrillicLetters : List String := [
  "IE WITH GRAVE", "IO", "DJE", "GJE", "UKRAINIAN IE", "DZE", "BYELORUSSIAN-UKRAINIAN I", "YI",
  "JE", "LJE", "NJE", "TSHE", "KJE", "I WITH GRAVE", "SHORT U", "DZHE", "A", "BE", "VE", "GHE",
  "DE", "IE", "ZHE", "ZE", "I", "SHORT I", "KA", "EL", "EM", "EN", "O", "PE", "ER", "ES", "TE",
  "U", "EF", "HA", "TSE", "CHE", "SHA", "SHCHA", "HARD SIGN", "YERU", "SOFT SIGN", "E", "YU", "YA"]

def digitNames : List String := [
  "ZERO", "ONE", "TWO", "THREE", "FOUR", "FIVE", "SIX", "SEVEN", "EIGHT", "NINE"]

def signNames : List String := [
  "SPACE", "EXCLAMATION MARK", "QUOTATION MARK", "NUMBER SIGN", "DOLLAR SIGN", "PERCENT SIGN",
  "AMPERSAND", "APOSTROPHE", "LEFT PARENTHESIS", "RIGHT PARENTHESIS", "ASTERISK", "PLUS SIGN",
  "COMMA", "HYPHEN-MINUS", "FULL STOP", "SOLIDUS", "COLON", "SEMICOLON", "LESS-THAN SIGN",
  "EQUALS SIGN", "GREATER-THAN SIGN", "QUESTION MARK", "COMMERCIAL AT", "LEFT SQUARE BRACKET",
  "REVERSE SOLIDUS", "RIGHT SQUARE BRACKET", "CIRCUMFLEX ACCENT", "LOW LINE", "GRAVE ACCENT",
  "LEFT CURLY BRACKET", "VERTICAL LINE", "RIGHT CURLY BRACKET", "TILDE", "NO-BREAK SPACE",
  "INVERTED EXCLAMATION MARK", "CENT SIGN", "POUND SIGN", "CURRENCY SIGN", "YEN SIGN",
  "BROKEN BAR", "SECTION SIGN", "DIAERESIS", "COPYRIGHT SIGN", "FEMININE ORDINAL INDICATOR",
  "LEFT-POINTING DOUBLE ANGLE QUOTATION MARK", "NOT SIGN", "SOFT HYPHEN", "REGISTERED SIGN",
  "MACRON", "DEGREE SIGN", "PLUS-MINUS SIGN", "SUPERSCRIPT TWO", "SUPERSCRIPT THREE",
  "ACUTE ACCENT", "MICRO SIGN", "PILCROW SIGN", "MIDDLE DOT", "CEDILLA", "SUPERSCRIPT ONE",
  "MASCULINE ORDINAL INDICATOR", "RIGHT-POINTING DOUBLE ANGLE QUOTATION MARK",
  "VULGAR FRACTION ONE QUARTER", "VULGAR FRACTION ONE HALF", "VULGAR FRACTION THREE QUARTERS",
  "INVERTED QUESTION MARK", "MULTIPLICATION SIGN", "DIVISION SIGN", "LATIN CAPITAL LIGATURE IJ",
  "LATIN SMALL LIGATURE IJ", "LATIN CAPITAL LIGATURE OE", "LATIN SMALL LIGATURE OE",
  "GREEK ANO TELEIA", "HYPHEN", "NON-BREAKING HYPHEN", "FIGURE DASH", "EN DASH", "EM DASH",
  "HORIZONTAL BAR", "DOUBLE VERTICAL LINE", "DOUBLE LOW LINE", "LEFT SINGLE QUOTATION MARK",
  "RIGHT SINGLE QUOTATION MARK", "SINGLE LOW-9 QUOTATION MARK",
  "SINGLE HIGH-REVERSED-9 QUOTATION MARK", "LEFT DOUBLE QUOTATION MARK",
  "RIGHT DOUBLE QUOTATION MARK", "DOUBLE LOW-9 QUOTATION MARK",
  "DOUBLE HIGH-REVERSED-9 QUOTATION MARK", "DAGGER", "DOUBLE DAGGER", "BULLET",
  "TRIANGULAR BULLET", "ONE DOT LEADER", "TWO DOT LEADER", "HORIZONTAL ELLIPSIS",
  "HYPHENATION POINT", "NARROW NO-BREAK SPACE", "PER MILLE SIGN", "PER TEN THOUSAND SIGN", "PRIME",
  "DOUBLE PRIME", "TRIPLE PRIME", "REVERSED PRIME", "REVERSED DOUBLE PRIME",
  "REVERSED TRIPLE PRIME", "CARET", "SINGLE LEFT-POINTING ANGLE QUOTATION MARK",
  "SINGLE RIGHT-POINTING ANGLE QUOTATION MARK", "REFERENCE MARK", "DOUBLE EXCLAMATION MARK",
  "INTERROBANG", "OVERLINE", "ZERO WIDTH SPACE", "ZERO WIDTH NON-JOINER", "ZERO WIDTH JOINER",
  "LINE SEPARATOR", "PARAGRAPH SEPARATOR", "WORD JOINER", "ZERO WIDTH NO-BREAK SPACE",
  "REPLACEMENT CHARACTER", "FRENCH FRANC SIGN", "LIRA SIGN", "WON SIGN", "NEW SHEQEL SIGN",
  "DONG SIGN", "EURO SIGN", "INDIAN RUPEE SIGN", "RUBLE SIGN", "BITCOIN SIGN", "NUMERO SIGN",
  "TRADE MARK SIGN", "OHM SIGN", "KELVIN SIGN", "ANGSTROM SIGN", "LEFTWARDS ARROW",
  "UPWARDS ARROW", "RIGHTWARDS ARROW", "DOWNWARDS ARROW", "LEFT RIGHT ARROW", "UP DOWN ARROW",
  "NORTH WEST ARROW", "NORTH EAST ARROW", "SOUTH EAST ARROW", "SOUTH WEST ARROW",
  "LEFTWARDS DOUBLE ARROW", "UPWARDS DOUBLE ARROW", "RIGHTWARDS DOUBLE ARROW",
  "DOWNWARDS DOUBLE ARROW", "LEFT RIGHT DOUBLE ARROW", "FOR ALL", "COMPLEMENT",
  "PARTIAL DIFFERENTIAL", "THERE EXISTS", "THERE DOES NOT EXIST", "EMPTY SET", "INCREMENT",
  "NABLA", "ELEMENT OF", "NOT AN ELEMENT OF", "SMALL ELEMENT OF", "CONTAINS AS MEMBER",
  "DOES NOT CONTAIN AS MEMBER", "SMALL CONTAINS AS MEMBER", "END OF PROOF", "N-ARY PRODUCT",
  "N-ARY COPRODUCT", "N-ARY SUMMATION", "MINUS SIGN", "MINUS-OR-PLUS SIGN", "SQUARE ROOT",
  "INFINITY", "INTERSECTION", "UNION", "INTEGRAL", "ALMOST EQUAL TO", "NOT EQUAL TO",
  "IDENTICAL TO", "LESS-THAN OR EQUAL TO", "GREATER-THAN OR EQUAL TO", "SUBSET OF", "SUPERSET OF",
  "SUBSET OF OR EQUAL TO", "SUPERSET OF OR EQUAL TO", "BLACK SQUARE", "WHITE SQUARE",
  "BLACK UP-POINTING TRIANGLE", "BLACK RIGHT-POINTING TRIANGLE", "BLACK DOWN-POINTING TRIANGLE",
  "BLACK LEFT-POINTING TRIANGLE", "BLACK DIAMOND", "WHITE CIRCLE", "BLACK CIRCLE",
  "BLACK SUN WITH RAYS", "CLOUD", "UMBRELLA", "SNOWMAN", "COMET", "BLACK STAR", "BLACK TELEPHONE",
  "HOT BEVERAGE", "SKULL AND CROSSBONES", "RADIOACTIVE SIGN", "BIOHAZARD SIGN", "PEACE SYMBOL",
  "YIN YANG", "WHITE FROWNING FACE", "WHITE SMILING FACE", "BLACK SMILING FACE",
  "BLACK SPADE SUIT", "WHITE HEART SUIT", "WHITE DIAMOND SUIT", "BLACK CLUB SUIT",
  "WHITE SPADE SUIT", "BLACK HEART SUIT", "BLACK DIAMOND SUIT", "WHITE CLUB SUIT", "EIGHTH NOTE",
  "BEAMED EIGHTH NOTES", "BLACK UNIVERSAL RECYCLING SYMBOL", "WHITE FLAG", "BLACK FLAG", "GEAR",
  "WARNING SIGN", "HIGH VOLTAGE SIGN", "WHITE HEAVY CHECK MARK", "AIRPLANE", "ENVELOPE",
  "RAISED HAND", "VICTORY HAND", "PENCIL", "CHECK MARK", "HEAVY CHECK MARK",
  "HEAVY MULTIPLICATION X", "BALLOT X", "HEAVY BALLOT X", "SPARKLES", "SNOWFLAKE", "CROSS MARK",
  "BLACK QUESTION MARK ORNAMENT", "HEAVY EXCLAMATION MARK SYMBOL", "HEAVY BLACK HEART",
  "BLACK RIGHTWARDS ARROW", "WHITE MEDIUM STAR", "GRINNING FACE",
  "GRINNING FACE WITH SMILING EYES", "FACE WITH TEARS OF JOY", "SMILING FACE WITH OPEN MOUTH",
  "SMILING FACE WITH OPEN MOUTH AND SMILING EYES", "SMILING FACE WITH OPEN MOUTH AND COLD SWEAT",
  "SMILING FACE WITH OPEN MOUTH AND TIGHTLY-CLOSED EYES", "SMILING FACE WITH HALO",
  "SMILING FACE WITH HORNS", "WINKING FACE", "SMILING FACE WITH SMILING EYES",
  "FACE SAVOURING DELICIOUS FOOD", "RELIEVED FACE", "SMILING FACE WITH HEART-SHAPED EYES",
  "SMILING FACE WITH SUNGLASSES", "SMIRKING FACE", "NEUTRAL FACE", "EXPRESSIONLESS FACE",
  "UNAMUSED FACE", "FACE WITH COLD SWEAT", "PENSIVE FACE", "CONFUSED FACE", "CONFOUNDED FACE",
  "KISSING FACE", "FACE THROWING A KISS", "KISSING FACE WITH SMILING EYES",
  "KISSING FACE WITH CLOSED EYES", "FACE WITH STUCK-OUT TONGUE",
  "FACE WITH STUCK-OUT TONGUE AND WINKING EYE",
  "FACE WITH STUCK-OUT TONGUE AND TIGHTLY-CLOSED EYES", "DISAPPOINTED FACE", "WORRIED FACE",
  "ANGRY FACE", "POUTING FACE", "CRYING FACE", "PERSEVERING FACE", "FACE WITH LOOK OF TRIUMPH",
  "DISAPPOINTED BUT RELIEVED FACE", "FROWNING FACE WITH OPEN MOUTH", "ANGUISHED FACE",
  "FEARFUL FACE", "WEARY FACE", "SLEEPY FACE", "TIRED FACE", "GRIMACING FACE",
  "LOUDLY CRYING FACE", "FACE WITH OPEN MOUTH", "HUSHED FACE",
  "FACE WITH OPEN MOUTH AND COLD SWEAT", "FACE SCREAMING IN FEAR", "ASTONISHED FACE",
  "FLUSHED FACE", "SLEEPING FACE", "DIZZY FACE", "FACE WITHOUT MOUTH", "FACE WITH MEDICAL MASK",
  "GRINNING CAT FACE WITH SMILING EYES", "CAT FACE WITH TEARS OF JOY",
  "SMILING CAT FACE WITH OPEN MOUTH", "SMILING CAT FACE WITH HEART-SHAPED EYES",
  "CAT FACE WITH WRY SMILE", "KISSING CAT FACE WITH CLOSED EYES", "POUTING CAT FACE",
  "CRYING CAT FACE", "WEARY CAT FACE", "SLIGHTLY FROWNING FACE", "SLIGHTLY SMILING FACE",
  "UPSIDE-DOWN FACE", "FACE WITH ROLLING EYES", "FACE WITH NO GOOD GESTURE",
  "FACE WITH OK GESTURE", "PERSON BOWING DEEPLY", "SEE-NO-EVIL MONKEY", "HEAR-NO-EVIL MONKEY",
  "SPEAK-NO-EVIL MONKEY", "HAPPY PERSON RAISING ONE HAND",
  "PERSON RAISING BOTH HANDS IN CELEBRATION", "PERSON FROWNING", "PERSON WITH POUTING FACE",
  "PERSON WITH FOLDED HANDS", "EARTH GLOBE EUROPE-AFRICA", "EARTH GLOBE AMERICAS", "GLOWING STAR",
  "SLICE OF PIZZA", "BEER MUG", "PARTY POPPER", "SNAKE", "ELEPHANT", "BUG", "PENGUIN", "CAT FACE",
  "DOG FACE", "WAVING HAND SIGN", "OK HAND SIGN", "THUMBS UP SIGN", "THUMBS DOWN SIGN",
  "CLAPPING HANDS SIGN", "SKULL", "BROKEN HEART", "BLUE HEART", "GREEN HEART", "YELLOW HEART",
  "ELECTRIC LIGHT BULB", "COLLISION SYMBOL", "PILE OF POO", "HUNDRED POINTS SYMBOL",
  "PERSONAL COMPUTER", "FILE FOLDER", "PAGE FACING UP", "MEMO", "PACKAGE", "LOCK", "OPEN LOCK",
  "FIRE", "WRENCH", "ROCKET", "CONSTRUCTION SIGN", "NO ENTRY SIGN", "THINKING FACE", "CLOWN FACE",
  "GRINNING FACE WITH STAR EYES", "SMILING FACE WITH SMILING EYES AND THREE HEARTS", "NULL", "NUL",
  "ALERT", "BEL", "BACKSPACE", "BS", "CHARACTER TABULATION", "HORIZONTAL TABULATION", "HT", "TAB",
  "LINE FEED", "NEW LINE", "END OF LINE", "LF", "NL", "EOL", "LINE TABULATION",
  "VERTICAL TABULATION", "VT", "FORM FEED", "FF", "CARRIAGE RETURN", "CR", "ESCAPE", "ESC", "SP",
  "DELETE", "DEL", "NEXT LINE", "NEL", "NBSP", "SHY", "ZWSP", "ZWNJ", "ZWJ", "WJ", "BOM",
  "BYTE ORDER MARK", "ZWNBSP"]

def nameFamilies : List (String × List String) := [
  ("LATIN CAPITAL LETTER ", latinLetters ++ latinCapitals),
  ("LATIN SMALL LETTER ", latinLetters ++ latinSmalls),
  ("GREEK CAPITAL LETTER ", greekLetters),
  ("GREEK SMALL LETTER ", greekLetters ++ greekSmalls),
  ("CYRILLIC CAPITAL LETTER ", cyrillicLetters),
  ("CYRILLIC SMALL LETTER ", cyrillicLetters),
  ("DIGIT ", digitNames),
  ("", signNames)]

def isCharacterName (cs : List Char) : Bool :=
  let name := cs.map Char.toUpper
  nameFamilies.any fun (start, ends) =>
    start.toList.isPrefixOf name &&
      ends.any fun rest => rest.toList == name.drop start.length

end LintRelay.Text
