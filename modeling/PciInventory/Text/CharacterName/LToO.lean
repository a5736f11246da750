/-!
# The names of characters, L to O

The names are in the order of their words. An entry is the number of words that a name shares with
the name before it, and the words that follow them. Entries are parted by semicolons and by ends of
lines.
-/
namespace PciInventory.Text

def namesFromLToO : String := "
0L B BAR SYMBOL;0LAB COAT;0LABEL;0LACROSSE STICK AND BALL;0LADDER;0LADY BEETLE;0LANGUAGE TAG
0LAO CANCELLATION MARK;1DIGIT EIGHT;2FIVE;2FOUR;2NINE;2ONE;2SEVEN;2SIX;2THREE;2TWO;2ZERO;1ELLIPSIS
1HO MO;2NO;1KO LA;1LETTER BO;2CO;2DO;2FO FAY;3FON;3SUNG;3TAM;2HO SUNG;3TAM;2KHMU GO;3NYO;2KHO SUNG
3TAM;2KO;2LO;3LING;3LOOT;2MO;2NGO;2NO;2NYO;2O;2PALI BHA;3CHA;3DDA;3DDHA;3DHA;3GHA;3JHA;3LLA;3NNA
3NYA;3TTA;3TTHA;2PHO SUNG;3TAM;2PO;2RO;2SANSKRIT SHA;3SSA;2SO SUNG;3TAM;2THO SUNG;3TAM;2TO;2WO;2YO
1NIGGAHITA;1SEMIVOWEL SIGN LO;3NYO;1SIGN PALI VIRAMA;1TONE MAI CATAWA;3EK;3THO;3TI;1VOWEL SIGN A
3AA;3AI;3AM;3AY;3E;3EI;3I;3II;3MAI KAN;4KON;3O;3U;3UU;3Y;3YY;0LARGE BLUE CIRCLE;2DIAMOND;2SQUARE
1BROWN CIRCLE;2SQUARE;1CIRCLE;1DOWN TACK;1GREEN CIRCLE;2SQUARE;1LEFT TRIANGLE OPERATOR
1ONE DOT OVER TWO DOTS PUNCTUATION;2RING OVER TWO RINGS PUNCTUATION;1ORANGE CIRCLE;2DIAMOND;2SQUARE
1PURPLE CIRCLE;2SQUARE;1RED CIRCLE;2SQUARE;1TRIPLE VERTICAL BAR OPERATOR
1TWO DOTS OVER ONE DOT PUNCTUATION;2RINGS OVER ONE RING PUNCTUATION;1UP TACK;1YELLOW CIRCLE;2SQUARE
0LARGER THAN;2OR EQUAL TO;0LARI SIGN;0LAST QUARTER MOON;3SYMBOL;3WITH FACE;0LATIN CAPITAL LETTER A
4WITH ACUTE;5BREVE;6AND ACUTE;7DOT BELOW;7GRAVE;7HOOK ABOVE;7TILDE;5CARON;5CIRCUMFLEX;6AND ACUTE
7DOT BELOW;7GRAVE;7HOOK ABOVE;7TILDE;5DIAERESIS;6AND MACRON;5DOT ABOVE;7AND MACRON;6BELOW
5DOUBLE GRAVE;5GRAVE;5HOOK ABOVE;5INVERTED BREVE;5MACRON;5OGONEK;5RING ABOVE;7AND ACUTE;6BELOW
5STROKE;5TILDE;3AA;3AE;4WITH ACUTE;5MACRON;3AFRICAN D;3ALPHA;3ANGLICANA W;3AO;3AU;3AV
4WITH HORIZONTAL BAR;3AY;3B;4WITH DOT ABOVE;6BELOW;5FLOURISH;5HOOK;5LINE BELOW;5STROKE;5TOPBAR
3BETA;3BROKEN L;3C;4WITH ACUTE;5BAR;5CARON;5CEDILLA;6AND ACUTE;5CIRCUMFLEX;5DOT ABOVE;5HOOK
5PALATAL HOOK;5STROKE;3CHI;3CLOSED INSULAR G;3CON;3CUATRILLO;4WITH COMMA;3D;4WITH CARON;5CEDILLA
5CIRCUMFLEX BELOW;5DOT ABOVE;6BELOW;5HOOK;5LINE BELOW;5SHORT STROKE OVERLAY;5SMALL LETTER Z
8WITH CARON;5STROKE;5TOPBAR;3DZ;4WITH CARON;3E;4WITH ACUTE;5BREVE;5CARON;5CEDILLA;6AND BREVE
5CIRCUMFLEX;6AND ACUTE;7DOT BELOW;7GRAVE;7HOOK ABOVE;7TILDE;6BELOW;5DIAERESIS;5DOT ABOVE;6BELOW
5DOUBLE GRAVE;5GRAVE;5HOOK ABOVE;5INVERTED BREVE;5MACRON;6AND ACUTE;7GRAVE;5OGONEK;5STROKE;5TILDE
6BELOW;3EGYPTOLOGICAL AIN;4ALEF;3ENG;3ESH;3ET;3ETH;3EZH;4REVERSED;4WITH CARON;3F;4WITH DOT ABOVE
5HOOK;5STROKE;3G;4WITH ACUTE;5BREVE;5CARON;5CEDILLA;5CIRCUMFLEX;5DOT ABOVE;5HOOK;5MACRON
5OBLIQUE STROKE;5STROKE;3GAMMA;3GHA;3GLOTTAL A;4I;4STOP;4U;3H;4WITH BREVE BELOW;5CARON;5CEDILLA
5CIRCUMFLEX;5DESCENDER;5DIAERESIS;5DOT ABOVE;6BELOW;5HOOK;5STROKE;3HALF H;3HENG;3HWAIR;3I
4WITH ACUTE;5BREVE;5CARON;5CIRCUMFLEX;5DIAERESIS;6AND ACUTE;5DOT ABOVE;6BELOW;5DOUBLE GRAVE;5GRAVE
5HOOK ABOVE;5INVERTED BREVE;5MACRON;5OGONEK;5STROKE;5TILDE;6BELOW;3INSULAR D;4F;4G;4R;4S;4T;3IOTA
3IS;3J;4WITH CIRCUMFLEX;5CROSSED-TAIL;5STROKE;3K;4WITH ACUTE;5CARON;5CEDILLA;5DESCENDER
5DIAGONAL STROKE;5DOT BELOW;5HOOK;5LINE BELOW;5OBLIQUE STROKE;5STROKE;6AND DIAGONAL STROKE;3L
4WITH ACUTE;5BAR;5BELT;5CARON;5CEDILLA;5CIRCUMFLEX BELOW;5DOT BELOW;7AND MACRON;5DOUBLE BAR
5HIGH STROKE;5LINE BELOW;5MIDDLE DOT;6TILDE;5SMALL LETTER J;5STROKE;3LJ;3M;4WITH ACUTE;5DOT ABOVE
6BELOW;5HOOK;3MIDDLE SCOTS S;3MIDDLE-WELSH LL;4V;3N;4WITH ACUTE;5CARON;5CEDILLA;5CIRCUMFLEX BELOW
5DESCENDER;5DOT ABOVE;6BELOW;5GRAVE;5LEFT HOOK;5LINE BELOW;5LONG RIGHT LEG;5OBLIQUE STROKE
5SMALL LETTER J;5TILDE;3NJ;3O;4WITH ACUTE;5BREVE;5CARON;5CIRCUMFLEX;6AND ACUTE;7DOT BELOW;7GRAVE
7HOOK ABOVE;7TILDE;5DIAERESIS;6AND MACRON;5DOT ABOVE;7AND MACRON;6BELOW;5DOUBLE ACUTE;6GRAVE;5GRAVE
5HOOK ABOVE;5HORN;6AND ACUTE;7DOT BELOW;7GRAVE;7HOOK ABOVE;7TILDE;5INVERTED BREVE
5LONG STROKE OVERLAY;5LOOP;5MACRON;6AND ACUTE;7GRAVE;5MIDDLE TILDE;5OGONEK;6AND MACRON;5STROKE
6AND ACUTE;5TILDE;6AND ACUTE;7DIAERESIS;7MACRON;3OI;3OLD POLISH O;3OMEGA;3OO;3OPEN E;4O;3OU;3P
4WITH ACUTE;5DOT ABOVE;5FLOURISH;5HOOK;5SQUIRREL TAIL;5STROKE;6THROUGH DESCENDER;3Q
4WITH DIAGONAL STROKE;5STROKE THROUGH DESCENDER;3R;4ROTUNDA;4WITH ACUTE;5CARON;5CEDILLA;5DOT ABOVE
6BELOW;7AND MACRON;5DOUBLE GRAVE;5INVERTED BREVE;5LINE BELOW;5OBLIQUE STROKE;5STROKE;5TAIL
3REVERSED C WITH DOT;4E;4HALF H;4OPEN E;3RUM ROTUNDA;3S;4WITH ACUTE;6AND DOT ABOVE;5CARON
6AND DOT ABOVE;5CEDILLA;5CIRCUMFLEX;5COMMA BELOW;5DOT ABOVE;6BELOW;7AND DOT ABOVE;5HOOK
5OBLIQUE STROKE;5SHORT STROKE OVERLAY;5SWASH TAIL;3SALTILLO;3SCHWA;3SCRIPT G;3SHARP S;3SIGMOID S
3SMALL CAPITAL I;4Q WITH HOOK TAIL;3T;4WITH CARON;5CEDILLA;5CIRCUMFLEX BELOW;5COMMA BELOW
5DIAGONAL STROKE;5DOT ABOVE;6BELOW;5HOOK;5LINE BELOW;5RETROFLEX HOOK;5STROKE;3THORN;4WITH STROKE
6THROUGH DESCENDER;3TONE FIVE;4SIX;4TWO;3TRESILLO;3TURNED A;4ALPHA;4H;4INSULAR G;4K;4L;4M;4T;4V;3TZ
3U;4BAR;4WITH ACUTE;5BREVE;5CARON;5CIRCUMFLEX;6BELOW;5DIAERESIS;6AND ACUTE;7CARON;7GRAVE;7MACRON
6BELOW;5DOT BELOW;5DOUBLE ACUTE;6GRAVE;5GRAVE;5HOOK ABOVE;5HORN;6AND ACUTE;7DOT BELOW;7GRAVE
7HOOK ABOVE;7TILDE;5INVERTED BREVE;5MACRON;6AND DIAERESIS;5OGONEK;5RING ABOVE;5STROKE;5TILDE
6AND ACUTE;6BELOW;3UPSILON;3V;4WITH DIAGONAL STROKE;5DOT BELOW;5HOOK;5TILDE;3VEND;3VISIGOTHIC Z
3VOLAPUK AE;4OE;4UE;3VY;3W;4WITH ACUTE;5CIRCUMFLEX;5DIAERESIS;5DOT ABOVE;6BELOW;5GRAVE;5HOOK;3WYNN
3X;4WITH DIAERESIS;5DOT ABOVE;3Y;4WITH ACUTE;5CIRCUMFLEX;5DIAERESIS;5DOT ABOVE;6BELOW;5GRAVE;5HOOK
6ABOVE;5LOOP;5MACRON;5STROKE;5TILDE;3YOGH;3Z;4WITH ACUTE;5CARON;5CIRCUMFLEX;5DESCENDER;5DOT ABOVE
6BELOW;5HOOK;5LINE BELOW;5PALATAL HOOK;5STROKE;5SWASH TAIL;2LIGATURE IJ;3OE;1CROSS
1EPIGRAPHIC LETTER ARCHAIC M;3I LONGA;3INVERTED M;3REVERSED F;4P;3SIDEWAYS I;1LETTER AIN
2ALVEOLAR CLICK;2BIDENTAL PERCUSSIVE;2BILABIAL CLICK;3PERCUSSIVE;2DENTAL CLICK;2GLOTTAL STOP
4WITH STROKE;2INVERTED GLOTTAL STOP;5WITH CURL;6STROKE;2LATERAL CLICK;2PHARYNGEAL VOICED FRICATIVE
2RETROFLEX CLICK;4WITH RETROFLEX HOOK;2REVERSED ESH LOOP;3GLOTTAL STOP WITH STROKE;2SINOLOGICAL DOT
2SMALL CAPITAL A;4AE;4B;4BARRED B;4C;4D;4E;4ETH;4EZH;4F;4G;5WITH HOOK;4H;4I;4INVERTED R;4J;4K;4L
5WITH BELT;6STROKE;4M;4N;4O;4OE;4OPEN O;4OU;4P;4Q;4R;5WITH RIGHT LEG;4REVERSED N;5R;4RUM;4S;4T
4TURNED E;5G;5K;5M;5R;4U;4V;4W;4Y;4Z;2STRETCHED C;4WITH CURL;2TWO WITH STROKE
2VOICED LARYNGEAL SPIRANT;2WYNN;2YR;1SMALL CAPITAL LETTER I WITH STROKE;4U WITH STROKE;2LETTER A
4REVERSED-SCHWA;4WITH ACUTE;5BREVE;6AND ACUTE;7DOT BELOW;7GRAVE;7HOOK ABOVE;7TILDE;5CARON
5CIRCUMFLEX;6AND ACUTE;7DOT BELOW;7GRAVE;7HOOK ABOVE;7TILDE;5DIAERESIS;6AND MACRON;5DOT ABOVE
7AND MACRON;6BELOW;5DOUBLE GRAVE;5GRAVE;5HOOK ABOVE;5INVERTED BREVE;5MACRON;5OGONEK;5RETROFLEX HOOK
5RIGHT HALF RING;5RING ABOVE;7AND ACUTE;6BELOW;5STROKE;5TILDE;3AA;3AE;4WITH ACUTE;5MACRON;3ALPHA
4WITH RETROFLEX HOOK;3ANGLICANA W;3AO;3AU;3AV;4WITH HORIZONTAL BAR;3AY;3B;4WITH DOT ABOVE;6BELOW
5FLOURISH;5HOOK;5LINE BELOW;5MIDDLE TILDE;5PALATAL HOOK;5STROKE;5TOPBAR;3BARRED ALPHA;4E;4O
3BASELINE ESH;3BETA;3BLACKLETTER E;4O;5WITH STROKE;3BOTTOM HALF O;3BROKEN L;3C;4WITH ACUTE;5BAR
5CARON;5CEDILLA;6AND ACUTE;5CIRCUMFLEX;5CURL;5DOT ABOVE;5HOOK;5PALATAL HOOK;5RETROFLEX HOOK;5STROKE
3CHI;4WITH LOW LEFT SERIF;6RIGHT RING;3CLOSED INSULAR G;4OMEGA;4OPEN E;4REVERSED OPEN E;3CON
3CUATRILLO;4WITH COMMA;3D;4WITH CARON;5CEDILLA;5CIRCUMFLEX BELOW;5CURL;5DOT ABOVE;6BELOW;5HOOK
6AND TAIL;5LINE BELOW;5MIDDLE TILDE;5PALATAL HOOK;5SHORT STROKE OVERLAY;5STROKE;5TAIL;5TOPBAR
3DB DIGRAPH;3DELTA;3DEZH DIGRAPH;5WITH PALATAL HOOK;6RETROFLEX HOOK;3DOTLESS I;4J;5WITH STROKE
7AND HOOK;3DOUBLE R;5WITH CROSSED-TAIL;4THORN;4WYNN;3DUM;3DZ;4DIGRAPH;5WITH CURL;6RETROFLEX HOOK
4WITH CARON;3E;4WITH ACUTE;5BREVE;5CARON;5CEDILLA;6AND BREVE;5CIRCUMFLEX;6AND ACUTE;7DOT BELOW
7GRAVE;7HOOK ABOVE;7TILDE;6BELOW;5DIAERESIS;5DOT ABOVE;6BELOW;5DOUBLE GRAVE;5FLOURISH;5GRAVE
5HOOK ABOVE;5INVERTED BREVE;5MACRON;6AND ACUTE;7GRAVE;5NOTCH;5OGONEK;5RETROFLEX HOOK;5STROKE;5TILDE
6BELOW;3EGYPTOLOGICAL AIN;4ALEF;3ENG;4WITH CROSSED-TAIL;5PALATAL HOOK;3ESH;4WITH CURL;5DOUBLE BAR
7AND CURL;5PALATAL HOOK;5RETROFLEX HOOK;3ET;3ETH;3EZH;4REVERSED;4WITH CARON;5CURL;5PALATAL HOOK
5RETROFLEX HOOK;5TAIL;3F;4WITH DOT ABOVE;5HOOK;5MIDDLE TILDE;5PALATAL HOOK;5STROKE;3FENG DIGRAPH
5WITH TRILL;3G;4WITH ACUTE;5BREVE;5CARON;5CEDILLA;5CIRCUMFLEX;5DOT ABOVE;5HOOK;5MACRON
5OBLIQUE STROKE;5PALATAL HOOK;5STROKE;3GAMMA;3GHA;3GLOTTAL A;4I;4STOP;4U;3H;4WITH BREVE BELOW
5CARON;5CEDILLA;5CIRCUMFLEX;5DESCENDER;5DIAERESIS;5DOT ABOVE;6BELOW;5HOOK;5LINE BELOW;5PALATAL HOOK
5STROKE;3HALF H;3HENG;4WITH HOOK;3HV;3I;4WITH ACUTE;5BREVE;5CARON;5CIRCUMFLEX;5DIAERESIS;6AND ACUTE
5DOT BELOW;5DOUBLE GRAVE;5GRAVE;5HOOK ABOVE;5INVERTED BREVE;5MACRON;5OGONEK;5RETROFLEX HOOK;5STROKE
6AND RETROFLEX HOOK;5TILDE;6BELOW;3INSULAR D;4F;4G;4R;4S;4T;3INVERTED ALPHA;4OE;3IOTA;4WITH STROKE
3IOTIFIED E;3IS;3J;4WITH CARON;5CIRCUMFLEX;5CROSSED-TAIL;5STROKE;3K;4WITH ACUTE;5CARON;5CEDILLA
5DESCENDER;5DIAGONAL STROKE;5DOT BELOW;5HOOK;5LINE BELOW;5OBLIQUE STROKE;5PALATAL HOOK;5STROKE
6AND DIAGONAL STROKE;3KRA;3L;4WITH ACUTE;5BAR;5BELT;6AND PALATAL HOOK;5CARON;5CEDILLA
5CIRCUMFLEX BELOW;5CURL;5DOT BELOW;7AND MACRON;5DOUBLE BAR;6MIDDLE TILDE;5FISHHOOK;5HIGH STROKE
5INVERTED LAZY S;5LINE BELOW;5MIDDLE DOT;6RING;6TILDE;5PALATAL HOOK;5RETROFLEX HOOK;7AND BELT
5STROKE;3LAMBDA WITH STROKE;3LENIS F;3LEZH;4WITH RETROFLEX HOOK;3LJ;3LONG S;5WITH DIAGONAL STROKE
6DOT ABOVE;6HIGH STROKE;3LS DIGRAPH;3LUM;3LZ DIGRAPH;3M;4WITH ACUTE;5CROSSED-TAIL;5DOT ABOVE;6BELOW
5HOOK;5MIDDLE TILDE;5PALATAL HOOK;3MIDDLE SCOTS S;3MIDDLE-WELSH LL;4V;3MUM;3N
4PRECEDED BY APOSTROPHE;4WITH ACUTE;5CARON;5CEDILLA;5CIRCUMFLEX BELOW;5CROSSED-TAIL;5CURL
5DESCENDER;5DOT ABOVE;6BELOW;5GRAVE;5LEFT HOOK;5LINE BELOW;5LONG RIGHT LEG;5MIDDLE TILDE
5OBLIQUE STROKE;5PALATAL HOOK;5RETROFLEX HOOK;5TILDE;3NJ;3NUM;3O;4WITH ACUTE;5BREVE;5CARON
5CIRCUMFLEX;6AND ACUTE;7DOT BELOW;7GRAVE;7HOOK ABOVE;7TILDE;5DIAERESIS;6AND MACRON;5DOT ABOVE
7AND MACRON;6BELOW;5DOUBLE ACUTE;6GRAVE;5GRAVE;5HOOK ABOVE;5HORN;6AND ACUTE;7DOT BELOW;7GRAVE
7HOOK ABOVE;7TILDE;5INVERTED BREVE;5LONG STROKE OVERLAY;5LOOP;5LOW RING INSIDE;5MACRON;6AND ACUTE
7GRAVE;5OGONEK;6AND MACRON;5RETROFLEX HOOK;5STROKE;6AND ACUTE;5TILDE;6AND ACUTE;7DIAERESIS;7MACRON
3OI;3OLD POLISH O;3OMEGA;3OO;3OPEN E;5WITH RETROFLEX HOOK;4O;5WITH RETROFLEX HOOK;6STROKE;4OE;3OU
3P;4WITH ACUTE;5DOT ABOVE;5FLOURISH;5HOOK;5MIDDLE TILDE;5PALATAL HOOK;5SQUIRREL TAIL;5STROKE
6THROUGH DESCENDER;3PHI;3Q;4WITH DIAGONAL STROKE;5HOOK;6TAIL;5STROKE THROUGH DESCENDER;3QP DIGRAPH
3R;4ROTUNDA;4WITH ACUTE;5CARON;5CEDILLA;5CROSSED-TAIL;5DOT ABOVE;6BELOW;7AND MACRON;5DOUBLE GRAVE
5FISHHOOK;6AND MIDDLE TILDE;7PALATAL HOOK;5INVERTED BREVE;5LINE BELOW;5LONG LEG;5MIDDLE TILDE
5OBLIQUE STROKE;5PALATAL HOOK;5STROKE;5TAIL;4WITHOUT HANDLE;3RAMS HORN;3REVERSED C;5WITH DOT;4E
4ENG;4HALF H;4K;4OPEN E;6WITH HOOK;7RETROFLEX HOOK;4R WITH FISHHOOK;4SCRIPT G;3RUM;4ROTUNDA;3S
4WITH ACUTE;6AND DOT ABOVE;5CARON;6AND DOT ABOVE;5CEDILLA;5CIRCUMFLEX;5COMMA BELOW;5CURL;5DOT ABOVE
6BELOW;7AND DOT ABOVE;5HOOK;5MIDDLE TILDE;5OBLIQUE STROKE;5PALATAL HOOK;5SHORT STROKE OVERLAY
5SWASH TAIL;3SAKHA YAT;3SALTILLO;3SCHWA;4WITH HOOK;5RETROFLEX HOOK;3SCRIPT G;5WITH CROSSED-TAIL;4R
5WITH RING;3SHARP S;3SIDEWAYS DIAERESIZED U;4O;5WITH STROKE;4OPEN O;4TURNED M;4U;3SIGMOID S
3SQUAT REVERSED ESH;3STIRRUP R;3T;4WITH CARON;5CEDILLA;5CIRCUMFLEX BELOW;5COMMA BELOW;5CURL
5DIAERESIS;5DIAGONAL STROKE;5DOT ABOVE;6BELOW;5HOOK;6AND RETROFLEX HOOK;5LINE BELOW;5MIDDLE TILDE
5PALATAL HOOK;5RETROFLEX HOOK;5STROKE;3TAILLESS PHI;3TC DIGRAPH WITH CURL;3TESH DIGRAPH
5WITH PALATAL HOOK;6RETROFLEX HOOK;3TH WITH STRIKETHROUGH;3THORN;4WITH STROKE;6THROUGH DESCENDER
3TONE FIVE;4SIX;4TWO;3TOP HALF O;3TRESILLO;3TS DIGRAPH;5WITH RETROFLEX HOOK;3TUM;3TURNED A;4AE
4ALPHA;4DELTA;4E;4G;4H;5WITH FISHHOOK;7AND TAIL;4I;4INSULAR G;4K;4L;4M;5WITH LONG LEG;4O OPEN-O
6WITH STROKE;4OE;5WITH HORIZONTAL STROKE;6STROKE;4OPEN E;4R;5WITH HOOK;6LONG LEG
8AND RETROFLEX HOOK;6MIDDLE TILDE;6PALATAL HOOK;6TAIL;4T;5WITH CURL;4UI;4V;4W;4Y;5WITH BELT;3TZ;3U
4BAR;5WITH SHORT RIGHT LEG;4WITH ACUTE;5BREVE;5CARON;5CIRCUMFLEX;6BELOW;5DIAERESIS;6AND ACUTE
7CARON;7GRAVE;7MACRON;6BELOW;5DOT BELOW;5DOUBLE ACUTE;6GRAVE;5GRAVE;5HOOK ABOVE;5HORN;6AND ACUTE
7DOT BELOW;7GRAVE;7HOOK ABOVE;7TILDE;5INVERTED BREVE;5LEFT HOOK;5MACRON;6AND DIAERESIS;5OGONEK
5RETROFLEX HOOK;5RING ABOVE;5SHORT RIGHT LEG;5STROKE;5TILDE;6AND ACUTE;6BELOW;3UE;3UI;3UM;3UO
3UPSILON;4WITH STROKE;3V;4WITH CURL;5DIAGONAL STROKE;5DOT BELOW;5HOOK;5PALATAL HOOK;5RIGHT HOOK
5TILDE;3VEND;3VISIGOTHIC Z;3VOLAPUK AE;4OE;4UE;3VY;3W;4WITH ACUTE;5CIRCUMFLEX;5DIAERESIS;5DOT ABOVE
6BELOW;5GRAVE;5HOOK;5RING ABOVE;3X;4WITH DIAERESIS;5DOT ABOVE;5LONG LEFT LEG;8AND LOW RIGHT RING
8WITH SERIF;5LOW RIGHT RING;5PALATAL HOOK;3Y;4WITH ACUTE;5CIRCUMFLEX;5DIAERESIS;5DOT ABOVE;6BELOW
5GRAVE;5HOOK;6ABOVE;5LOOP;5MACRON;5RING ABOVE;5SHORT RIGHT LEG;5STROKE;5TILDE;3YOGH;3Z;4WITH ACUTE
5CARON;5CIRCUMFLEX;5CURL;5DESCENDER;5DOT ABOVE;6BELOW;5HOOK;5LINE BELOW;5MIDDLE TILDE;5PALATAL HOOK
5RETROFLEX HOOK;5STROKE;5SWASH TAIL;2LIGATURE FF;3FFI;3FFL;3FI;3FL;3IJ;3LONG S T;3OE;3ST
1SUBSCRIPT SMALL LETTER A;4E;4H;4I;4J;4K;4L;4M;4N;4O;4P;4R;4S;4SCHWA;4T;4U;4V;4X
0LEAF FLUTTERING IN WIND;0LEAFY GREEN;0LEDGER
0LEFT AND LOWER AND RIGHT TRIANGULAR THREE QUARTERS BLOCK;3ONE EIGHTH BLOCK;2RIGHT DOUBLE TURNSTILE
3TACK;3TRIANGULAR HALF BLOCK;2UPPER AND RIGHT TRIANGULAR THREE QUARTERS BLOCK;3ONE EIGHTH BLOCK
1ANGER BUBBLE;1ANGLE BRACKET;3WITH DOT;1ARC LESS-THAN BRACKET;1ARROW WITH CIRCLED PLUS
3SMALL CIRCLE;1BARB DOWN RIGHT BARB DOWN HARPOON;5UP HARPOON;2UP RIGHT BARB DOWN HARPOON
5UP HARPOON;1BLACK LENTICULAR BRACKET;2TORTOISE SHELL BRACKET;1CEILING;1CLOSED ENTRY
1CORNER BRACKET;1CURLY BRACKET;3LOWER HOOK;3MIDDLE PIECE;3UPPER HOOK;1DOTTED SUBSTITUTION BRACKET
1DOUBLE ANGLE BRACKET;2PARENTHESIS;2QUOTATION MARK;2WIGGLY FENCE;1FISH TAIL;1FIVE EIGHTHS BLOCK
1FLOOR;1HALF BLACK CIRCLE;3STAR;2BLOCK;2CIRCLE;3WITH DOT;4FOUR DOTS;4THREE DOTS;4TWO DOTS;2FOLDER
2INVERSE MEDIUM SHADE AND RIGHT HALF BLOCK;2MEDIUM SHADE;2RUNNING MAN;1HAND TELEPHONE RECEIVER
1LOW PARAPHRASE BRACKET;1LUGGAGE;1MULTIMAP;1NORMAL FACTOR SEMIDIRECT PRODUCT;1ONE EIGHTH BLOCK
2QUARTER BLOCK;1OUTER JOIN;1PARENTHESIS;2EXTENSION;2LOWER HOOK;2UPPER HOOK;1RAISED OMISSION BRACKET
1RIGHT ARROW;3THROUGH SMALL CIRCLE;3WITH DOUBLE VERTICAL STROKE;4STROKE;4VERTICAL STROKE
2BLACK ARROW;2DOUBLE ARROW;4WITH STROKE;5VERTICAL STROKE;2OPEN-HEADED ARROW;2SANS-SERIF ARROW
2TRIANGLE-HEADED ARROW;2WAVE ARROW;2WHITE ARROW;1S-SHAPED BAG DELIMITER;1SEMIDIRECT PRODUCT
1SEVEN EIGHTHS BLOCK;1SIDEWAYS U BRACKET;1SINGLE QUOTATION MARK;1SPEECH BUBBLE;1SQUARE BRACKET
3EXTENSION;3LOWER CORNER;3UPPER CORNER;3WITH DOUBLE STROKE;4QUILL;4STROKE;4TICK IN BOTTOM CORNER
6TOP CORNER;4UNDERBAR;1SUBSTITUTION BRACKET;1TACK;1THIRD WHITE RIGHT POINTING INDEX;1THOUGHT BUBBLE
1THREE EIGHTHS BLOCK;2QUARTERS BLOCK;1TORTOISE SHELL BRACKET;1TRANSPOSITION BRACKET
1TRIANGLE BESIDE VERTICAL BAR;1TRIANGULAR ONE QUARTER BLOCK;1VERTICAL BAR WITH QUILL;2BOX LINE
1WHITE CORNER BRACKET;2CURLY BRACKET;2LENTICULAR BRACKET;2PARENTHESIS;2SQUARE BRACKET
2TORTOISE SHELL BRACKET;1WIGGLY FENCE;1WRITING HAND;0LEFT-FACING ARMENIAN ETERNITY SIGN;1FIST
1SVASTI SIGN;3WITH DOTS;0LEFT-HANDED INTERLACED PENTAGRAM;0LEFT-POINTING ANGLE BRACKET
1CURVED ANGLE BRACKET;1DOUBLE ANGLE QUOTATION MARK;1MAGNIFYING GLASS
0LEFT-SHADED WHITE RIGHTWARDS ARROW;0LEFT-SIDE ARC ANTICLOCKWISE ARROW;0LEFT-TO-RIGHT EMBEDDING
1ISOLATE;1MARK;1OVERRIDE;0LEFTWARDS ARROW;2ABOVE ALMOST EQUAL TO;3REVERSE ALMOST EQUAL TO
4TILDE OPERATOR;3SHORT RIGHTWARDS ARROW;3TILDE OPERATOR;2AND UPPER AND LOWER ONE EIGHTH BLOCK
2FROM BAR;4TO BLACK DIAMOND;2OVER RIGHTWARDS ARROW;2THROUGH LESS-THAN;3SUBSET;3X;2TO BAR
4OVER RIGHTWARDS ARROW TO BAR;3BLACK DIAMOND;2WITH DOTTED STEM;3DOUBLE VERTICAL STROKE
3EQUILATERAL ARROWHEAD;3HOOK;3LARGE TRIANGLE ARROWHEAD;3LOOP;3MEDIUM TRIANGLE ARROWHEAD
3NOTCHED TAIL;3PLUS BELOW;3SMALL EQUILATERAL ARROWHEAD;4TRIANGLE ARROWHEAD;3STROKE;3TAIL
4WITH DOUBLE VERTICAL STROKE;5VERTICAL STROKE;3TIP DOWNWARDS;4UPWARDS;3VERTICAL STROKE;1ARROW-TAIL
1BACK-TILTED SHADOWED WHITE ARROW;1BLACK ARROW;2CIRCLED WHITE ARROW;1BOTTOM-SHADED WHITE ARROW
1COMPRESSED ARROW;1DASHED ARROW;1DOUBLE ARROW;3FROM BAR;3WITH STROKE;4VERTICAL STROKE;2ARROW-TAIL
2DASH ARROW;1FINGER-POST ARROW;1FRONT-TILTED SHADOWED WHITE ARROW;1HAND
1HARPOON OVER RIGHTWARDS HARPOON;2WITH BARB DOWN ABOVE RIGHTWARDS HARPOON WITH BARB DOWN
5BELOW LONG DASH;5FROM BAR;5TO BAR;4DOWNWARDS;4UP ABOVE LEFTWARDS HARPOON WITH BARB DOWN;6LONG DASH
6RIGHTWARDS HARPOON WITH BARB UP;5FROM BAR;5TO BAR;4UPWARDS;1HEAVY ARROW;2COMPRESSED ARROW
1LEFT-SHADED WHITE ARROW;1OPEN-HEADED ARROW;1PAIRED ARROWS;1QUADRUPLE ARROW
1RIGHT-SHADED WHITE ARROW;1ROCKET;1SANS-SERIF ARROW;1SQUARED ARROW;1SQUIGGLE ARROW
1TOP SHADED WHITE ARROW;1TRIANGLE ARROWHEAD;1TRIANGLE-HEADED ARROW
3OVER RIGHTWARDS TRIANGLE-HEADED ARROW;3TO BAR;3WITH BOLD SHAFT;4DOUBLE HORIZONTAL STROKE
5VERTICAL STROKE;4HEAVY SHAFT;4LONG TIP DOWNWARDS;6UPWARDS;4MEDIUM SHAFT;4NARROW SHAFT
4VERY HEAVY SHAFT;2DASHED ARROW;2PAIRED ARROWS;1TRIPLE ARROW;2DASH ARROW;1TWO HEADED ARROW
1TWO-HEADED ARROW FROM BAR;3WITH DOUBLE VERTICAL STROKE;4TAIL;5WITH DOUBLE VERTICAL STROKE
6VERTICAL STROKE;4TRIANGLE ARROWHEADS;4VERTICAL STROKE;2TRIPLE DASH ARROW;1WAVE ARROW;1WHITE ARROW
3WITHIN TRIANGLE ARROWHEAD;0LEG;0LEMON;0LEO;0LEOPARD;0LEPCHA CONSONANT SIGN K;3KANG;3L;3M;3N
3NYIN-DO;3P;3R;3T;1DIGIT EIGHT;2FIVE;2FOUR;2NINE;2ONE;2SEVEN;2SIX;2THREE;2TWO;2ZERO;1LETTER A;2BA
2BLA;2CA;2CHA;2DA;2DDA;2DZA;2FA;2FLA;2GA;2GLA;2HA;2HLA;2JA;2KA;2KHA;2KLA;2LA;2MA;2MLA;2NA;2NGA;2NYA
2PA;2PHA;2PLA;2RA;2SA;2SHA;2TA;2THA;2TSA;2TSHA;2TTA;2TTHA;2VA;2WA;2YA;1PUNCTUATION CER-WA
2NYET THYOOM TA-ROL;2TA-ROL;2TSHOOK;3CER-WA;1SIGN NUKTA;2RAN;1SUBJOINED LETTER RA;3YA
1VOWEL SIGN AA;3E;3I;3O;3OO;3U;3UU;0LESS-THAN ABOVE DOUBLE-LINE EQUAL ABOVE GREATER-THAN
2GREATER-THAN ABOVE DOUBLE-LINE EQUAL;2LEFTWARDS ARROW;2SIMILAR ABOVE GREATER-THAN;3OR EQUAL
2SLANTED EQUAL ABOVE GREATER-THAN ABOVE SLANTED EQUAL;1AND NOT APPROXIMATE
2SINGLE-LINE NOT EQUAL TO;1BUT NOT EQUAL TO;3EQUIVALENT TO;1CLOSED BY CURVE;4ABOVE SLANTED EQUAL
1EQUAL TO OR GREATER-THAN;1OR APPROXIMATE;2EQUAL TO;2EQUIVALENT TO;2GREATER-THAN;2SLANTED EQUAL TO
5WITH DOT ABOVE;8RIGHT;7INSIDE;1OVER EQUAL TO;1SIGN;1WITH CIRCLE INSIDE;2DOT;2QUESTION MARK ABOVE
0LEVEL SLIDER;0LF;0LIBRA;0LIGATURE OPEN ET ORNAMENT;0LIGHT CHECK MARK;1EIGHT SPOKED ASTERISK
1FIVE POINTED BLACK STAR;2SPOKED ASTERISK;1FOUR POINTED BLACK CUSP;4STAR;1GREEK CROSS
1LEFT TORTOISE SHELL BRACKET ORNAMENT;1RAIL;1RIGHT TORTOISE SHELL BRACKET ORNAMENT;1SALTIRE;1SHADE
1SIX SPOKED ASTERISK;1THREE POINTED BLACK STAR;1TWELVE POINTED BLACK STAR;1VERTICAL BAR
1WHITE SQUARE;0LIGHTNING;1MOOD;2BUBBLE;0LIMBU DIGIT EIGHT;2FIVE;2FOUR;2NINE;2ONE;2SEVEN;2SIX;2THREE
2TWO;2ZERO;1EXCLAMATION MARK;1LETTER BA;2BHA;2CA;2CHA;2DA;2DHA;2GA;2GHA;2GYAN;2HA;2JA;2JHA;2KA;2KHA
2LA;2MA;2NA;2NGA;2PA;2PHA;2RA;2SA;2SHA;2SSA;2TA;2THA;2TRA;2WA;2YA;2YAN;1QUESTION MARK
1SIGN KEMPHRENG;2LOO;2MUKPHRENG;2SA-I;1SMALL LETTER ANUSVARA;3KA;3LA;3MA;3NA;3NGA;3PA;3RA;3TA
1SUBJOINED LETTER RA;3WA;3YA;1VOWEL SIGN A;3AI;3AU;3E;3EE;3I;3O;3OO;3U;1VOWEL-CARRIER LETTER
0LIMITED LIABILITY SIGN;0LINE FEED;1INTEGRATION NOT INCLUDING THE POLE
2WITH RECTANGULAR PATH AROUND POLE;3SEMICIRCULAR PATH AROUND POLE;1SEPARATOR;1TABULATION;2SET
0LINEAR A SIGN A028B;3A100-102;3A120B;3A131C;3A301;3A302;3A303;3A304;3A305;3A306;3A307;3A308;3A309A
3A309B;3A309C;3A310;3A311;3A312;3A313A;3A313B;3A313C;3A314;3A315;3A316;3A317;3A318;3A319;3A320
3A321;3A322;3A323;3A324;3A325;3A326;3A327;3A328;3A329;3A330;3A331;3A332;3A333;3A334;3A335;3A336
3A337;3A338;3A339;3A340;3A341;3A342;3A343;3A344;3A345;3A346;3A347;3A348;3A349;3A350;3A351;3A352
3A353;3A354;3A355;3A356;3A357;3A358;3A359;3A360;3A361;3A362;3A363;3A364;3A365;3A366;3A367;3A368
3A369;3A370;3A371;3A400-VAS;3A401-VAS;3A402-VAS;3A403-VAS;3A404-VAS;3A405-VAS;3A406-VAS;3A407-VAS
3A408-VAS;3A409-VAS;3A410-VAS;3A411-VAS;3A412-VAS;3A413-VAS;3A414-VAS;3A415-VAS;3A416-VAS;3A417-VAS
3A418-VAS;3A501;3A502;3A503;3A504;3A505;3A506;3A508;3A509;3A510;3A511;3A512;3A513;3A515;3A516;3A520
3A521;3A523;3A524;3A525;3A526;3A527;3A528;3A529;3A530;3A531;3A532;3A534;3A535;3A536;3A537;3A538
3A539;3A540;3A541;3A542;3A545;3A547;3A548;3A549;3A550;3A551;3A552;3A553;3A554;3A555;3A556;3A557
3A559;3A563;3A564;3A565;3A566;3A568;3A569;3A570;3A571;3A572;3A573;3A574;3A575;3A576;3A577;3A578
3A579;3A580;3A581;3A582;3A583;3A584;3A585;3A586;3A587;3A588;3A589;3A591;3A592;3A594;3A595;3A596
3A598;3A600;3A601;3A602;3A603;3A604;3A606;3A608;3A609;3A610;3A611;3A612;3A613;3A614;3A615;3A616
3A617;3A618;3A619;3A620;3A621;3A622;3A623;3A624;3A626;3A627;3A628;3A629;3A634;3A637;3A638;3A640
3A642;3A643;3A644;3A645;3A646;3A648;3A649;3A651;3A652;3A653;3A654;3A655;3A656;3A657;3A658;3A659
3A660;3A661;3A662;3A663;3A664;3A701 A;3A702 B;3A703 D;3A704 E;3A705 F;3A706 H;3A707 J;3A708 K
3A709 L;3A709-2 L2;3A709-3 L3;3A709-4 L4;3A709-6 L6;3A710 W;3A711 X;3A712 Y;3A713 OMEGA;3A714 ABB
3A715 BB;3A717 DD;3A726 EYYY;3A732 JE;3A800;3A801;3A802;3A803;3A804;3A805;3A806;3A807;3AB001;3AB002
3AB003;3AB004;3AB005;3AB006;3AB007;3AB008;3AB009;3AB010;3AB011;3AB013;3AB016;3AB017;3AB020;3AB021
3AB021F;3AB021M;3AB022;3AB022F;3AB022M;3AB023;3AB023M;3AB024;3AB026;3AB027;3AB028;3AB029;3AB030
3AB031;3AB034;3AB037;3AB038;3AB039;3AB040;3AB041;3AB044;3AB045;3AB046;3AB047;3AB048;3AB049;3AB050
3AB051;3AB053;3AB054;3AB055;3AB056;3AB057;3AB058;3AB059;3AB060;3AB061;3AB065;3AB066;3AB067;3AB069
3AB070;3AB073;3AB074;3AB076;3AB077;3AB078;3AB079;3AB080;3AB081;3AB082;3AB085;3AB086;3AB087;3AB118
3AB120;3AB122;3AB123;3AB131A;3AB131B;3AB164;3AB171;3AB180;3AB188;3AB191;1B IDEOGRAM B100 MAN
3B102 WOMAN;3B104 DEER;3B105 EQUID;3B105F MARE;3B105M STALLION;3B106F EWE;3B106M RAM
3B107F SHE-GOAT;3B107M HE-GOAT;3B108F SOW;3B108M BOAR;3B109F COW;3B109M BULL;3B120 WHEAT
3B121 BARLEY;3B122 OLIVE;3B123 SPICE;3B125 CYPERUS;3B130 OIL;3B131 WINE;3B132;3B140 BRONZE
3B141 GOLD;3B142;3B145 WOOL;3B146;3B150;3B151 HORN;3B152;3B153;3B154;3B157;3B158;3B159 CLOTH;3B160
3B161;3B162 GARMENT;3B163 ARMOUR;3B164;3B165;3B166;3B167;3B168;3B169;3B170;3B171;3B172;3B173 MONTH
3B174;3B176 TREE;3B177;3B178;3B179;3B180;3B181;3B182;3B183;3B184;3B185;3B189;3B190;3B191 HELMET
3B220 FOOTSTOOL;3B225 BATHTUB;3B230 SPEAR;3B231 ARROW;3B232;3B233 SWORD;3B234;3B236
3B240 WHEELED CHARIOT;3B241 CHARIOT;3B242 CHARIOT FRAME;3B243 WHEEL;3B245;3B246;3B248;3B249;3B251
3B252;3B253;3B254 DART;3B255;3B256;3B257;3B258;3B259;3VESSEL B155;4B200;4B201;4B202;4B203;4B204
4B205;4B206;4B207;4B208;4B209;4B210;4B211;4B212;4B213;4B214;4B215;4B216;4B217;4B218;4B219;4B221
4B222;4B226;4B227;4B228;4B229;4B250;4B305;2MONOGRAM B127 KAPO;3B128 KANAKO;3B133 AREPA;3B135 MERI
3B156 TURO2;3B247 DIPTE;2SYLLABLE B001 DA;3B002 RO;3B003 PA;3B004 TE;3B005 TO;3B006 NA;3B007 DI
3B008 A;3B009 SE;3B010 U;3B011 PO;3B012 SO;3B013 ME;3B014 DO;3B015 MO;3B016 QA;3B017 ZA;3B020 ZO
3B021 QI;3B023 MU;3B024 NE;3B025 A2;3B026 RU;3B027 RE;3B028 I;3B029 PU2;3B030 NI;3B031 SA;3B032 QO
3B033 RA3;3B036 JO;3B037 TI;3B038 E;3B039 PI;3B040 WI;3B041 SI;3B042 WO;3B043 A3;3B044 KE;3B045 DE
3B046 JE;3B048 NWA;3B050 PU;3B051 DU;3B052 NO;3B053 RI;3B054 WA;3B055 NU;3B057 JA;3B058 SU;3B059 TA
3B060 RA;3B061 O;3B062 PTE;3B065 JU;3B066 TA2;3B067 KI;3B068 RO2;3B069 TU;3B070 KO;3B071 DWE
3B072 PE;3B073 MI;3B074 ZE;3B075 WE;3B076 RA2;3B077 KA;3B078 QE;3B080 MA;3B081 KU;3B085 AU
3B087 TWE;3B090 DWO;3B091 TWO;2SYMBOL B018;3B019;3B022;3B034;3B047;3B049;3B056;3B063;3B064;3B079
3B082;3B083;3B086;3B089;0LINK SYMBOL;0LINKED PAPERCLIPS;0LION FACE;0LIPS;0LIPSTICK;0LIRA SIGN
0LISU LETTER A;2AE;2BA;2CA;2CHA;2DA;2DZA;2E;2EU;2FA;2GA;2GHA;2HA;2HHA;2I;2JA;2KA;2KHA;2LA;2MA;2NA
2NGA;2O;2OE;2PA;2PHA;2SA;2SHA;2TA;2THA;2TONE MYA BO;4CYA;4JEU;4NA;4TI;3NA PO;2TSA;2TSHA;2U;2UE;2UH
2WA;2XA;2YA;2YHA;2ZA;2ZHA;1PUNCTUATION COMMA;2FULL STOP;0LIVRE TOURNOIS SIGN;0LIZARD;0LLAMA
0LOBSTER;0LOCK;1WITH INK PEN;0LOCKING-SHIFT ONE;1ZERO;0LOGICAL AND;2WITH DOT ABOVE;3DOUBLE OVERBAR
4UNDERBAR;3HORIZONTAL DASH;3MIDDLE STEM;3UNDERBAR;1OR;2OVERLAPPING LOGICAL AND;2WITH DOT ABOVE
3DOUBLE OVERBAR;4UNDERBAR;3HORIZONTAL DASH;3MIDDLE STEM;0LOLLIPOP
0LONG DASH FROM LEFT MEMBER OF DOUBLE VERTICAL;1DIVISION;1DRUM;1LEFT RIGHT ARROW;3DOUBLE ARROW
2TACK;1LEFTWARDS ARROW;3FROM BAR;2DOUBLE ARROW;4FROM BAR;2SQUIGGLE ARROW;1RIGHT TACK
1RIGHTWARDS ARROW;3FROM BAR;2DOUBLE ARROW;4FROM BAR;2SQUIGGLE ARROW;0LOTION BOTTLE;0LOTUS
0LOUDLY CRYING FACE;0LOVE HOTEL;1LETTER;0LOW ASTERISK;1BATTERY;1BRIGHTNESS SYMBOL
1DOUBLE PRIME QUOTATION MARK;1KAVYKA;2WITH DOT;1LINE;0LOWER BLADE SCISSORS;1FIVE EIGHTHS BLOCK
1HALF BLOCK;2CIRCLE;2INVERSE WHITE CIRCLE;2MEDIUM SHADE;1LEFT BALLPOINT PEN
2BLOCK DIAGONAL LOWER MIDDLE LEFT TO LOWER CENTRE;9RIGHT;4UPPER CENTRE TO LOWER MIDDLE RIGHT;8RIGHT
7UPPER MIDDLE RIGHT;5LEFT TO LOWER CENTRE;8MIDDLE RIGHT;7UPPER MIDDLE RIGHT
5MIDDLE LEFT TO LOWER CENTRE;9MIDDLE RIGHT;9RIGHT;2CRAYON;2FOUNTAIN PEN;2PAINTBRUSH;2PENCIL
2QUADRANT CIRCULAR ARC;2SEMICIRCULAR ANTICLOCKWISE ARROW;2TRIANGLE;2TRIANGULAR MEDIUM SHADE
1ONE EIGHTH BLOCK;2QUARTER BLOCK;1RIGHT BLOCK DIAGONAL LOWER CENTRE TO LOWER MIDDLE RIGHT
7UPPER MIDDLE RIGHT;8RIGHT;5LEFT TO LOWER MIDDLE RIGHT;7UPPER CENTRE;8MIDDLE RIGHT
5MIDDLE LEFT TO UPPER CENTRE;9MIDDLE RIGHT;9RIGHT;4UPPER MIDDLE LEFT TO UPPER CENTRE;9RIGHT
2CORNER WITH DOT;2DROP-SHADOWED WHITE SQUARE;2PENCIL;2QUADRANT CIRCULAR ARC
2SEMICIRCULAR CLOCKWISE ARROW;2SHADOWED WHITE CIRCLE;4SQUARE;2TRIANGLE;2TRIANGULAR MEDIUM SHADE
1SEVEN EIGHTHS BLOCK;1THREE EIGHTHS BLOCK;2QUARTERS BLOCK;1TRIANGULAR ONE QUARTER BLOCK;0LOZENGE
1DIVIDED BY HORIZONTAL RULE;0LRE;0LRI;0LRM;0LRO;0LUGGAGE;0LUNGS;0LYCIAN LETTER A;2AN;2B;2BH;2D;2E
2EN;2G;2H;2I;2J;2K;2KK;2L;2M;2MM;2N;2NN;2P;2Q;2R;2S;2T;2TH;2TT;2U;2W;2X;2Z;0LYDIAN LETTER A;2AN;2B
2C;2D;2E;2EN;2F;2G;2I;2K;2L;2LY;2M;2N;2NN;2O;2Q;2R;2S;2SS;2T;2TT;2U;2V;2Y;1TRIANGULAR MARK
0LYING FACE;0MACRON;0MAGE;0MAGIC WAND;0MAGNET;0MAHAJANI ABBREVIATION SIGN;1LETTER A;2BA;2BHA;2CA
2CHA;2DA;2DDA;2DDHA;2DHA;2E;2GA;2GHA;2HA;2I;2JA;2JHA;2KA;2KHA;2LA;2MA;2NA;2NNA;2NYA;2O;2PA;2PHA;2RA
2RRA;2SA;2TA;2THA;2TTA;2TTHA;2U;2VA;1LIGATURE SHRI;1SECTION MARK;1SIGN NUKTA;0MAHJONG TILE AUTUMN
2BACK;2BAMBOO;2CHRYSANTHEMUM;2EAST WIND;2EIGHT OF BAMBOOS;4CHARACTERS;4CIRCLES;2FIVE OF BAMBOOS
4CHARACTERS;4CIRCLES;2FOUR OF BAMBOOS;4CHARACTERS;4CIRCLES;2GREEN DRAGON;2JOKER;2NINE OF BAMBOOS
4CHARACTERS;4CIRCLES;2NORTH WIND;2ONE OF BAMBOOS;4CHARACTERS;4CIRCLES;2ORCHID;2PLUM;2RED DRAGON
2SEVEN OF BAMBOOS;4CHARACTERS;4CIRCLES;2SIX OF BAMBOOS;4CHARACTERS;4CIRCLES;2SOUTH WIND;2SPRING
2SUMMER;2THREE OF BAMBOOS;4CHARACTERS;4CIRCLES;2TWO OF BAMBOOS;4CHARACTERS;4CIRCLES;2WEST WIND
2WHITE DRAGON;2WINTER;0MAKASAR ANGKA;1END OF SECTION;1LETTER A;2BA;2CA;2DA;2GA;2JA;2KA;2LA;2MA;2NA
2NGA;2NYA;2PA;2RA;2SA;2TA;2VA;2YA;1PASSIMBANG;1VOWEL SIGN E;3I;3O;3U;0MALAYALAM AU LENGTH MARK
1DATE MARK;1DIGIT EIGHT;2FIVE;2FOUR;2NINE;2ONE;2SEVEN;2SIX;2THREE;2TWO;2ZERO;1FRACTION ONE EIGHTH
3FIFTH;3FORTIETH;3HALF;3ONE-HUNDRED-AND-SIXTIETH;3QUARTER;3SIXTEENTH;3TENTH;3TWENTIETH
2THREE EIGHTIETHS;3QUARTERS;3SIXTEENTHS;3TWENTIETHS;1LETTER A;2AA;2AI;2ARCHAIC II;2AU;2BA;2BHA;2CA
2CHA;2CHILLU K;3L;3LL;3LLL;3M;3N;3NN;3RR;3Y;2DA;2DDA;2DDHA;2DHA;2DOT REPH;2E;2EE;2GA;2GHA;2HA;2I
2II;2JA;2JHA;2KA;2KHA;2LA;2LLA;2LLLA;2MA;2NA;2NGA;2NNA;2NNNA;2NYA;2O;2OO;2PA;2PHA;2RA;2RRA;2SA;2SHA
2SSA;2TA;2THA;2TTA;2TTHA;2TTTA;2U;2UU;2VA;2VEDIC ANUSVARA;2VOCALIC L;3LL;3R;3RR;2YA
1NUMBER ONE HUNDRED;3THOUSAND;2TEN;1SIGN ANUSVARA;2AVAGRAHA;2CANDRABINDU;2CIRCULAR VIRAMA
2COMBINING ANUSVARA ABOVE;2PARA;2VERTICAL BAR VIRAMA;2VIRAMA;2VISARGA;1VOWEL SIGN AA;3AI;3AU;3E;3EE
3I;3II;3O;3OO;3U;3UU;3VOCALIC L;4LL;4R;4RR;0MALE AND FEMALE SIGN;1SIGN
1WITH STROKE AND MALE AND FEMALE SIGN;3SIGN;0MALTESE CROSS;0MAMMOTH;0MAN;1AND WOMAN HOLDING HANDS
1DANCING;1IN BUSINESS SUIT LEVITATING;2TUXEDO;1WITH GUA PI MAO;2TURBAN;0MANAT SIGN
0MANDAIC AFFRICATION MARK;1GEMINATION MARK;1LETTER AB;2AD;2AG;2AH;2AIN;2AK;2AKSA;2AL;2AM;2AN;2AP
2AQ;2AR;2AS;2ASH;2ASZ;2AT;2ATT;2AZ;2DUSHENNA;2HALQA;2IN;2IT;2KAD;2USHENNA;1PUNCTUATION
1VOCALIZATION MARK;0MANGO;0MANICHAEAN ABBREVIATION MARK ABOVE;3BELOW;1LETTER AAYIN;2ALEPH;2AYIN
2BETH;2BHETH;2DALETH;2DHAMEDH;2FE;2GHIMEL;2GIMEL;2HE;2HETH;2JAYIN;2JHAYIN;2KAPH;2KHAPH;2LAMEDH;2MEM
2NUN;2PE;2QHOPH;2QOPH;2RESH;2SADHE;2SAMEKH;2SHIN;2SSHIN;2TAW;2TETH;2THAMEDH;2WAW;2XAPH;2XOPH;2YODH
2ZAYIN;2ZHAYIN;1NUMBER FIVE;2ONE;3HUNDRED;2TEN;2TWENTY;1PUNCTUATION DOT;3WITHIN DOT
2DOUBLE DOT WITHIN DOT;2FLEURON;2LINE FILLER;2STAR;2TWO DOTS;1SIGN UD;0MANS SHOE;0MANTELPIECE CLOCK
0MANUAL WHEELCHAIR;0MAP SYMBOL FOR LIGHTHOUSE;0MAPLE LEAF;0MARCHEN HEAD MARK;1LETTER -A;2A;2BA;2CA
2CHA;2DA;2DZA;2GA;2HA;2JA;2KA;2KHA;2LA;2MA;2NA;2NGA;2NYA;2PA;2PHA;2RA;2SA;2SHA;2TA;2THA;2TSA;2TSHA
2WA;2YA;2ZA;2ZHA;1MARK SHAD;1SIGN ANUSVARA;2CANDRABINDU;1SUBJOINED LETTER A;3BA;3CA;3CHA;3DA;3DZA
3GA;3HA;3JA;3KA;3KHA;3LA;3MA;3NA;3NGA;3NYA;3PA;3PHA;3RA;3SA;3SHA;3TA;3THA;3TSA;3TSHA;3WA;3YA;3ZA
3ZHA;1VOWEL SIGN AA;3E;3I;3O;3U;0MARRIAGE SYMBOL;0MARTIAL ARTS UNIFORM;0MASARAM GONDI DIGIT EIGHT
3FIVE;3FOUR;3NINE;3ONE;3SEVEN;3SIX;3THREE;3TWO;3ZERO;2LETTER A;3AA;3AI;3AU;3BA;3BHA;3CA;3CHA;3DA
3DDA;3DDHA;3DHA;3E;3GA;3GHA;3HA;3I;3II;3JA;3JHA;3JNYA;3KA;3KHA;3KSSA;3LA;3LLA;3MA;3NA;3NGA;3NNA
3NYA;3O;3PA;3PHA;3RA;3SA;3SHA;3SSA;3TA;3THA;3TRA;3TTA;3TTHA;3U;3UU;3VA;3YA;2RA-KARA;2REPHA
2SIGN ANUSVARA;3CANDRA;3HALANTA;3NUKTA;3VISARGA;2VIRAMA;2VOWEL SIGN AA;4AI;4AU;4E;4I;4II;4O;4U;4UU
4VOCALIC R;0MASCULINE ORDINAL INDICATOR;0MASK WORK SYMBOL;0MASU MARK;0MATE DRINK
0MATHEMATICAL BOLD CAPITAL A;3ALPHA;3B;3BETA;3C;3CHI;3D;3DELTA;3DIGAMMA;3E;3EPSILON;3ETA;3F;3G
3GAMMA;3H;3I;3IOTA;3J;3K;3KAPPA;3L;3LAMDA;3M;3MU;3N;3NU;3O;3OMEGA;3OMICRON;3P;3PHI;3PI;3PSI;3Q;3R
3RHO;3S;3SIGMA;3T;3TAU;3THETA;4SYMBOL;3U;3UPSILON;3V;3W;3X;3XI;3Y;3Z;3ZETA;2DIGIT EIGHT;3FIVE;3FOUR
3NINE;3ONE;3SEVEN;3SIX;3THREE;3TWO;3ZERO;2EPSILON SYMBOL;2FRAKTUR CAPITAL A;4B;4C;4D;4E;4F;4G;4H;4I
4J;4K;4L;4M;4N;4O;4P;4Q;4R;4S;4T;4U;4V;4W;4X;4Y;4Z;3SMALL A;4B;4C;4D;4E;4F;4G;4H;4I;4J;4K;4L;4M;4N
4O;4P;4Q;4R;4S;4T;4U;4V;4W;4X;4Y;4Z;2ITALIC CAPITAL A;4ALPHA;4B;4BETA;4C;4CHI;4D;4DELTA;4E;4EPSILON
4ETA;4F;4G;4GAMMA;4H;4I;4IOTA;4J;4K;4KAPPA;4L;4LAMDA;4M;4MU;4N;4NU;4O;4OMEGA;4OMICRON;4P;4PHI;4PI
4PSI;4Q;4R;4RHO;4S;4SIGMA;4T;4TAU;4THETA;5SYMBOL;4U;4UPSILON;4V;4W;4X;4XI;4Y;4Z;4ZETA
3EPSILON SYMBOL;3KAPPA SYMBOL;3NABLA;3PARTIAL DIFFERENTIAL;3PHI SYMBOL;3PI SYMBOL;3RHO SYMBOL
3SMALL A;4ALPHA;4B;4BETA;4C;4CHI;4D;4DELTA;4E;4EPSILON;4ETA;4F;4FINAL SIGMA;4G;4GAMMA;4H;4I;4IOTA
4J;4K;4KAPPA;4L;4LAMDA;4M;4MU;4N;4NU;4O;4OMEGA;4OMICRON;4P;4PHI;4PI;4PSI;4Q;4R;4RHO;4S;4SIGMA;4T
4TAU;4THETA;4U;4UPSILON;4V;4W;4X;4XI;4Y;4Z;4ZETA;3THETA SYMBOL;2KAPPA SYMBOL;2NABLA
2PARTIAL DIFFERENTIAL;2PHI SYMBOL;2PI SYMBOL;2RHO SYMBOL;2SCRIPT CAPITAL A;4B;4C;4D;4E;4F;4G;4H;4I
4J;4K;4L;4M;4N;4O;4P;4Q;4R;4S;4T;4U;4V;4W;4X;4Y;4Z;3SMALL A;4B;4C;4D;4E;4F;4G;4H;4I;4J;4K;4L;4M;4N
4O;4P;4Q;4R;4S;4T;4U;4V;4W;4X;4Y;4Z;2SMALL A;3ALPHA;3B;3BETA;3C;3CHI;3D;3DELTA;3DIGAMMA;3E;3EPSILON
3ETA;3F;3FINAL SIGMA;3G;3GAMMA;3H;3I;3IOTA;3J;3K;3KAPPA;3L;3LAMDA;3M;3MU;3N;3NU;3O;3OMEGA;3OMICRON
3P;3PHI;3PI;3PSI;3Q;3R;3RHO;3S;3SIGMA;3T;3TAU;3THETA;3U;3UPSILON;3V;3W;3X;3XI;3Y;3Z;3ZETA
2THETA SYMBOL;1DOUBLE-STRUCK CAPITAL A;3B;3D;3E;3F;3G;3I;3J;3K;3L;3M;3O;3S;3T;3U;3V;3W;3X;3Y
2DIGIT EIGHT;3FIVE;3FOUR;3NINE;3ONE;3SEVEN;3SIX;3THREE;3TWO;3ZERO;2SMALL A;3B;3C;3D;3E;3F;3G;3H;3I
3J;3K;3L;3M;3N;3O;3P;3Q;3R;3S;3T;3U;3V;3W;3X;3Y;3Z;1FALLING DIAGONAL;1FRAKTUR CAPITAL A;3B;3D;3E;3F
3G;3J;3K;3L;3M;3N;3O;3P;3Q;3S;3T;3U;3V;3W;3X;3Y;2SMALL A;3B;3C;3D;3E;3F;3G;3H;3I;3J;3K;3L;3M;3N;3O
3P;3Q;3R;3S;3T;3U;3V;3W;3X;3Y;3Z;1ITALIC CAPITAL A;3ALPHA;3B;3BETA;3C;3CHI;3D;3DELTA;3E;3EPSILON
3ETA;3F;3G;3GAMMA;3H;3I;3IOTA;3J;3K;3KAPPA;3L;3LAMDA;3M;3MU;3N;3NU;3O;3OMEGA;3OMICRON;3P;3PHI;3PI
3PSI;3Q;3R;3RHO;3S;3SIGMA;3T;3TAU;3THETA;4SYMBOL;3U;3UPSILON;3V;3W;3X;3XI;3Y;3Z;3ZETA
2EPSILON SYMBOL;2KAPPA SYMBOL;2NABLA;2PARTIAL DIFFERENTIAL;2PHI SYMBOL;2PI SYMBOL;2RHO SYMBOL
2SMALL A;3ALPHA;3B;3BETA;3C;3CHI;3D;3DELTA;3DOTLESS I;4J;3E;3EPSILON;3ETA;3F;3FINAL SIGMA;3G;3GAMMA
3I;3IOTA;3J;3K;3KAPPA;3L;3LAMDA;3M;3MU;3N;3NU;3O;3OMEGA;3OMICRON;3P;3PHI;3PI;3PSI;3Q;3R;3RHO;3S
3SIGMA;3T;3TAU;3THETA;3U;3UPSILON;3V;3W;3X;3XI;3Y;3Z;3ZETA;2THETA SYMBOL;1LEFT ANGLE BRACKET
2DOUBLE ANGLE BRACKET;2FLATTENED PARENTHESIS;2WHITE SQUARE BRACKET;3TORTOISE SHELL BRACKET
1MONOSPACE CAPITAL A;3B;3C;3D;3E;3F;3G;3H;3I;3J;3K;3L;3M;3N;3O;3P;3Q;3R;3S;3T;3U;3V;3W;3X;3Y;3Z
2DIGIT EIGHT;3FIVE;3FOUR;3NINE;3ONE;3SEVEN;3SIX;3THREE;3TWO;3ZERO;2SMALL A;3B;3C;3D;3E;3F;3G;3H;3I
3J;3K;3L;3M;3N;3O;3P;3Q;3R;3S;3T;3U;3V;3W;3X;3Y;3Z;1RIGHT ANGLE BRACKET;2DOUBLE ANGLE BRACKET
2FLATTENED PARENTHESIS;2WHITE SQUARE BRACKET;3TORTOISE SHELL BRACKET;1RISING DIAGONAL
1SANS-SERIF BOLD CAPITAL A;4ALPHA;4B;4BETA;4C;4CHI;4D;4DELTA;4E;4EPSILON;4ETA;4F;4G;4GAMMA;4H;4I
4IOTA;4J;4K;4KAPPA;4L;4LAMDA;4M;4MU;4N;4NU;4O;4OMEGA;4OMICRON;4P;4PHI;4PI;4PSI;4Q;4R;4RHO;4S;4SIGMA
4T;4TAU;4THETA;5SYMBOL;4U;4UPSILON;4V;4W;4X;4XI;4Y;4Z;4ZETA;3DIGIT EIGHT;4FIVE;4FOUR;4NINE;4ONE
4SEVEN;4SIX;4THREE;4TWO;4ZERO;3EPSILON SYMBOL;3ITALIC CAPITAL A;5ALPHA;5B;5BETA;5C;5CHI;5D;5DELTA
5E;5EPSILON;5ETA;5F;5G;5GAMMA;5H;5I;5IOTA;5J;5K;5KAPPA;5L;5LAMDA;5M;5MU;5N;5NU;5O;5OMEGA;5OMICRON
5P;5PHI;5PI;5PSI;5Q;5R;5RHO;5S;5SIGMA;5T;5TAU;5THETA;6SYMBOL;5U;5UPSILON;5V;5W;5X;5XI;5Y;5Z;5ZETA
4EPSILON SYMBOL;4KAPPA SYMBOL;4NABLA;4PARTIAL DIFFERENTIAL;4PHI SYMBOL;4PI SYMBOL;4RHO SYMBOL
4SMALL A;5ALPHA;5B;5BETA;5C;5CHI;5D;5DELTA;5E;5EPSILON;5ETA;5F;5FINAL SIGMA;5G;5GAMMA;5H;5I;5IOTA
5J;5K;5KAPPA;5L;5LAMDA;5M;5MU;5N;5NU;5O;5OMEGA;5OMICRON;5P;5PHI;5PI;5PSI;5Q;5R;5RHO;5S;5SIGMA;5T
5TAU;5THETA;5U;5UPSILON;5V;5W;5X;5XI;5Y;5Z;5ZETA;4THETA SYMBOL;3KAPPA SYMBOL;3NABLA
3PARTIAL DIFFERENTIAL;3PHI SYMBOL;3PI SYMBOL;3RHO SYMBOL;3SMALL A;4ALPHA;4B;4BETA;4C;4CHI;4D;4DELTA
4E;4EPSILON;4ETA;4F;4FINAL SIGMA;4G;4GAMMA;4H;4I;4IOTA;4J;4K;4KAPPA;4L;4LAMDA;4M;4MU;4N;4NU;4O
4OMEGA;4OMICRON;4P;4PHI;4PI;4PSI;4Q;4R;4RHO;4S;4SIGMA;4T;4TAU;4THETA;4U;4UPSILON;4V;4W;4X;4XI;4Y;4Z
4ZETA;3THETA SYMBOL;2CAPITAL A;3B;3C;3D;3E;3F;3G;3H;3I;3J;3K;3L;3M;3N;3O;3P;3Q;3R;3S;3T;3U;3V;3W;3X
3Y;3Z;2DIGIT EIGHT;3FIVE;3FOUR;3NINE;3ONE;3SEVEN;3SIX;3THREE;3TWO;3ZERO;2ITALIC CAPITAL A;4B;4C;4D
4E;4F;4G;4H;4I;4J;4K;4L;4M;4N;4O;4P;4Q;4R;4S;4T;4U;4V;4W;4X;4Y;4Z;3SMALL A;4B;4C;4D;4E;4F;4G;4H;4I
4J;4K;4L;4M;4N;4O;4P;4Q;4R;4S;4T;4U;4V;4W;4X;4Y;4Z;2SMALL A;3B;3C;3D;3E;3F;3G;3H;3I;3J;3K;3L;3M;3N
3O;3P;3Q;3R;3S;3T;3U;3V;3W;3X;3Y;3Z;1SCRIPT CAPITAL A;3C;3D;3G;3J;3K;3N;3O;3P;3Q;3S;3T;3U;3V;3W;3X
3Y;3Z;2SMALL A;3B;3C;3D;3F;3H;3I;3J;3K;3L;3M;3N;3P;3Q;3R;3S;3T;3U;3V;3W;3X;3Y;3Z;0MAXIMIZE
0MAYAN NUMERAL EIGHT;2EIGHTEEN;2ELEVEN;2FIFTEEN;2FIVE;2FOUR;2FOURTEEN;2NINE;2NINETEEN;2ONE;2SEVEN
2SEVENTEEN;2SIX;2SIXTEEN;2TEN;2THIRTEEN;2THREE;2TWELVE;2TWO;2ZERO;0MEASURED ANGLE;2OPENING LEFT
2WITH OPEN ARM ENDING IN ARROW POINTING DOWN AND LEFT;9DOWN AND RIGHT;9LEFT AND DOWN;9LEFT AND UP
9RIGHT AND DOWN;9RIGHT AND UP;9UP AND LEFT;9UP AND RIGHT;1BY;1RIGHT ANGLE WITH DOT;0MEAT ON BONE
0MECHANICAL ARM;1LEG;0MEDEFAIDRIN CAPITAL LETTER A;3AI;3ATIU;3B;3C;3D;3E;3F;3G;3H;3HP;3I;3J;3K;3KP
3L;3M;3N;3NG;3NY;3O;3OE;3P;3Q;3R;3S;3T;3U;3V;3W;3X;3Y;3YU;3Z;1COMMA;1DIGIT EIGHT;2FIVE;2FOUR;2NINE
2ONE;3ALTERNATE FORM;2SEVEN;2SIX;2THREE;3ALTERNATE FORM;2TWO;3ALTERNATE FORM;2ZERO;1EXCLAMATION OH
1FULL STOP;1NUMBER EIGHTEEN;2ELEVEN;2FIFTEEN;2FOURTEEN;2NINETEEN;2SEVENTEEN;2SIXTEEN;2TEN;2THIRTEEN
2TWELVE;1SMALL LETTER A;3AI;3ATIU;3B;3C;3D;3E;3F;3G;3H;3HP;3I;3J;3K;3KP;3L;3M;3N;3NG;3NY;3O;3OE;3P
3Q;3R;3S;3T;3U;3V;3W;3X;3Y;3YU;3Z;1SYMBOL AIVA;0MEDIEVAL COMMA;1EXCLAMATION MARK;1QUESTION MARK
0MEDIUM BLACK CIRCLE;1BOLD WHITE CIRCLE;1EIGHT POINTED BLACK STAR;2SPOKED ASTERISK
1FIVE SPOKED ASTERISK;1FLATTENED LEFT PARENTHESIS ORNAMENT;2RIGHT PARENTHESIS ORNAMENT
1FOUR POINTED BLACK STAR;3PINWHEEL STAR;1GREEK CROSS;1LEFT CURLY BRACKET ORNAMENT
2PARENTHESIS ORNAMENT;1LEFT-POINTING ANGLE BRACKET ORNAMENT;1MATHEMATICAL SPACE
1RIGHT CURLY BRACKET ORNAMENT;2PARENTHESIS ORNAMENT;1RIGHT-POINTING ANGLE BRACKET ORNAMENT;1SALTIRE
1SHADE;1SIX POINTED BLACK STAR;2SPOKED ASTERISK;1SMALL WHITE CIRCLE;1THREE POINTED BLACK STAR
3PINWHEEL STAR;1VERTICAL BAR;1WHITE CIRCLE;2SQUARE;0MEETEI MAYEK AHANG KHUDAM;2ANJI;2APUN IYEK
2CHEIKHAN;2CHEIKHEI;2DIGIT EIGHT;3FIVE;3FOUR;3NINE;3ONE;3SEVEN;3SIX;3THREE;3TWO;3ZERO;2LETTER ATIYA
3BA;3BHAM;3CHA;3CHIL;3DDA;3DDHA;3DHOU;3DIL;3E;3GHOU;3GOK;3HUK;3I;4LONSUM;3JHAM;3JIL;3KHOU;3KOK
4LONSUM;3LAI;4LONSUM;3MIT;4LONSUM;3NA;4LONSUM;3NGOU;4LONSUM;3NNA;3NYA;3O;3PA;4LONSUM;3PHAM;3RAI
3SAM;3SHA;3SSA;3THOU;3TIL;4LONSUM;3TTA;3TTHA;3UN;3WAI;3YANG;2LUM IYEK;2SYLLABLE REPETITION MARK
2VIRAMA;2VOWEL SIGN AAI;4AAU;4ANAP;4AU;4CHEINAP;4II;4INAP;4NUNG;4ONAP;4SOUNAP;4UNAP;4UU;4VISARGA
4YENAP;2WORD REPETITION MARK;0MELON;0MELTING FACE;0MEMO
0MENDE KIKAKUI COMBINING NUMBER HUNDRED THOUSANDS;4HUNDREDS;4MILLIONS;4TEENS;4TEN THOUSANDS;4TENS
4THOUSANDS;2DIGIT EIGHT;3FIVE;3FOUR;3NINE;3ONE;3SEVEN;3SIX;3THREE;3TWO;2SYLLABLE M001 KI;3M002 KA
3M003 KU;3M004 WI;3M005 WA;3M006 WU;3M007 MIN;3M008 MAN;3M009 MUN;3M010 BI;3M011 BA;3M012 BU
3M013 I;3M014 A;3M015 U;3M016 DI;3M017 DA;3M018 DU;3M019 SI;3M020 SA;3M021 SU;3M022 TI;3M023 TA
3M024 TU;3M025 LI;3M026 LA;3M027 LU;3M028 JI;3M029 JA;3M030 JU;3M031 YI;3M032 YA;3M033 YU;3M034 FI
3M035 FA;3M036 FU;3M037 NIN;3M038 NAN;3M039 NUN;3M040 HEE;3M041 HA;3M042 HOO;3M043 NGGA;3M044 KPEE
3M045 WO;3M046 HUAN;3M047 MBEE;3M048 KO;3M049 WVA;3M050 PU;3M051 PE;3M052 HEN;3M053 HIN;3M054 LOO
3M055 TE;3M056 GBA;3M057 NGON;3M058 NYAN;3M059 MEN;3M060 NYON;3M061 WVI;3M062 MBA;3M063 JO
3M064 NDO;3M065 KEE;3M066 PO;3M067 NDOO;3M068 PI;3M069 TO;3M070 GBO;3M071 GBOO;3M072 MBE;3M073 LE
3M074 KPU;3M075 FE;3M076 KOO;3M077 VO;3M078 FEE;3M079 SO;3M080 YE;3M081 PEE;3M082 NGGU;3M083 HEEI
3M084 LEE;3M085 VE;3M086 LONG NGGE;3M087 HUN;3M088 FO;3M089 DEE;3M090 NGGI;3M091 TEE;3M092 KPA
3M093 GBEE;3M094 MON;3M095 KE;3M096 HE;3M097 BE;3M098 NYEN;3M099 PA;3M100 E;3M101 FAN;3M102 POO
3M103 BOO;3M104 TOO;3M105 LONG MBOO;3M106 LONG NGGOO;3M107 GBE;3M108 KPE;3M109 YEE;3M110 LONG LE
3M111 GA;3M112 KPOO;3M113 JE;3M114 WOO;3M115 NGGEE;3M116 SE;3M117 NEN;3M118 WE;3M119 NDE;3M120 NGGO
3M121 YO;3M122 MBU;3M123 NDI;3M124 GBI;3M125 NDU;3M126 WEE;3M127 NGGUA;3M128 HOOU;3M129 NDA
3M130 HAN;3M131 IN;3M132 KPI;3M133 FOO;3M134 NJOO;3M135 IN;3M136 SOO;3M137 EI;3M138 BO;3M139 WVE
3M140 HO;3M141 YOO;3M142 LONG MBO;3M143 WEI;3M144 VOO;3M145 MBI;3M146 NGGE;3M147 O;3M148 GBU
3M149 NJEE;3M150 BEE;3M151 VU;3M152 NJA;3M153 LO;3M154 MUAN;3M155 GI;3M156 NGGOO;3M157 JEE
3M158 KPO;3M159 NGGAA;3M160 JOO;3M161 LONG MBE;3M162 SEE;3M163 EE;3M164 NYIN;3M165 OO;3M166 GUEI
3M167 GUAN;3M168 GU;3M169 NON;3M170 NYUN;3M171 RA;3M172 MBOO;3M173 VEE;3M174 MBO;3M175 LONG JO
3M176 HI;3M177 NGUAN;3M178 EN;3M179 KUA;3M180 DOO;3M181 DO;3M182 VI;3M183 LONG NGGO;3M184 NGEN
3M185 VA;3M186 HU;3M187 MBUU;3M188 MBEE;3M189 MUEN;3M190 GEE;3M191 NDEE;3M192 NJU;3M193 HON
3M194 WUI;3M195 AN;3M196 SIA;3M197 FUA;0MENORAH WITH NINE BRANCHES;0MENS SYMBOL;0MERCURY
0MEROITIC CURSIVE FRACTION EIGHT TWELFTHS;3ELEVEN TWELFTHS;3FIVE TWELFTHS;3FOUR TWELFTHS
3NINE TWELFTHS;3ONE HALF;4TWELFTH;3SEVEN TWELFTHS;3SIX TWELFTHS;3TEN TWELFTHS;3THREE TWELFTHS
3TWO TWELFTHS;2LETTER A;3ARCHAIC SA;3BA;3DA;3E;3HHA;3I;3KA;3KHA;3LA;3MA;3NA;3NE;3O;3PA;3QA;3RA;3SA
3SE;3TA;3TE;3TO;3WA;3YA;2LOGOGRAM IMN;3RMT;2NUMBER EIGHT;4HUNDRED;5THOUSAND;4THOUSAND
3EIGHTY THOUSAND;3FIFTY;4THOUSAND;3FIVE;4HUNDRED;5THOUSAND;4THOUSAND;3FORTY;4THOUSAND;3FOUR
4HUNDRED;5THOUSAND;4THOUSAND;3NINE;4HUNDRED;5THOUSAND;4THOUSAND;3NINETY THOUSAND;3ONE;4HUNDRED
5THOUSAND;4THOUSAND;3SEVEN;4HUNDRED;5THOUSAND;4THOUSAND;3SEVENTY;4THOUSAND;3SIX;4HUNDRED;5THOUSAND
4THOUSAND;3SIXTY;4THOUSAND;3TEN;4THOUSAND;3THIRTY;4THOUSAND;3THREE;4HUNDRED;5THOUSAND;4THOUSAND
3TWENTY;4THOUSAND;3TWO;4HUNDRED;5THOUSAND;4THOUSAND;1HIEROGLYPHIC LETTER A;3BA;3BA-2;3DA;3E;3HHA;3I
3KA;3KHA;3LA;3MA;3NA;3NA-2;3NE;3NE-2;3O;3PA;3QA;3RA;3RA-2;3SA;3SA-2;3SE;3TA;3TA-2;3TE;3TE-2;3TO;3WA
3YA;2SYMBOL VIDJ;3VIDJ-2;0MERPERSON;0MESSAGE WAITING;0METRICAL BREVE;1LONG OVER SHORT;3TWO SHORTS
1PENTASEME;1SHORT OVER LONG;1TETRASEME;1TRISEME;1TWO SHORTS JOINED;3OVER LONG;0METRO
0MIAO LETTER AH;2ARCHAIC MA;3NA;3NGA;3ZZA;2BA;2BRI;2DA;2DDA;2DLHA;2DLHYA;2DZA;2DZHA;2DZYI;2DZZA;2FA
2GA;2GHA;2GHHA;2HA;2HHA;2KA;2LA;2LHA;2LHYA;2LYA;2MA;2MHA;2NA;2NASALIZATION;2NGA;2NGHA;2NHA;2NNA
2NNHA;2NYA;2NYHA;2PA;2PLA;2QA;2QGA;2REFORMED TONE-1;3TONE-2;3TONE-4;3TONE-5;3TONE-6;3TONE-8;3TSHA
2RTE;2SA;2SHA;2SSA;2SYI;2TA;2TE;2TLHA;2TLHYA;2TONE-2;2TONE-3;2TONE-4;2TONE-5;2TONE-6;2TONE-7
2TONE-8;2TSA;2TSE;2TSHA;2TSSA;2TTA;2VA;2VFA;2WA;2XA;2YI DZHA;3KA;3NNA;3PA;3TA;3TSA;3TSHA;3TTA;2ZA
2ZHA;2ZSA;2ZSHA;2ZZA;2ZZSA;2ZZSYA;2ZZYA;1SIGN ASPIRATION;2CONSONANT MODIFIER BAR
2REFORMED ASPIRATION;3VOICING;1TONE ABOVE;2BELOW;2RIGHT;2TOP RIGHT;1VOWEL SIGN A;3AA;3AE;3AEE;3AHH
3AI;3AN;3ANG;3AU;3E;3EA;3EI;3EN;3ENG;3ER;3ERR;3I;3IA;3IAN;3IANG;3IE;3IG;3II;3ING;3IO;3IONG;3IU;3N
3NG;3O;3OER;3OEY;3OG;3OO;3OU;3ROUNDED ER;4ERR;3U;3UA;3UAN;3UANG;3UEI;3UI;3UNG;3UOG;3UU;3VW;3W;3WO
3Y;3YI;3YUI;0MICR DASH SYMBOL;1ON US SYMBOL;0MICRO SIGN;0MICROBE;0MICROPHONE;0MICROSCOPE
0MIDDLE DOT;1THIRD WHITE RIGHT POINTING INDEX;0MIDLINE HORIZONTAL ELLIPSIS;0MILITARY HELMET;1MEDAL
0MILKY WAY;0MILL SIGN;0MINIBUS;0MINIDISC;0MINIMIZE;0MINUS SIGN;2IN TRIANGLE;2WITH COMMA ABOVE
3DOT BELOW;3FALLING DOTS;3RISING DOTS;1TILDE;0MINUS-OR-PLUS SIGN;0MINY;0MIRROR;1BALL;0MMSP
0MOBILE PHONE;2OFF;2WITH RIGHTWARDS ARROW AT LEFT;0MODELS;0MODERN PENTATHLON
0MODI ABBREVIATION SIGN;1DANDA;1DIGIT EIGHT;2FIVE;2FOUR;2NINE;2ONE;2SEVEN;2SIX;2THREE;2TWO;2ZERO
1DOUBLE DANDA;1LETTER A;2AA;2AI;2AU;2BA;2BHA;2CA;2CHA;2DA;2DDA;2DDHA;2DHA;2E;2GA;2GHA;2HA;2I;2II
2JA;2JHA;2KA;2KHA;2LA;2LLA;2MA;2NA;2NGA;2NNA;2NYA;2O;2PA;2PHA;2RA;2SA;2SHA;2SSA;2TA;2THA;2TTA;2TTHA
2U;2UU;2VA;2VOCALIC L;3LL;3R;3RR;2YA;1SIGN ANUSVARA;2ARDHACANDRA;2HUVA;2VIRAMA;2VISARGA
1VOWEL SIGN AA;3AI;3AU;3E;3I;3II;3O;3U;3UU;3VOCALIC L;4LL;4R;4RR
0MODIFIER BREVE WITH INVERTED BREVE;1LETTER ACUTE ACCENT;2ALVEOLAR CLICK;2APOSTROPHE
2BEGIN HIGH TONE;3LOW TONE;2BILABIAL CLICK;2CAPITAL A;3AE;3B;3BARRED B;3C;3D;3E;3F;3G;3H
4WITH STROKE;3I;3J;3K;3L;3M;3N;3O;3OU;3P;3Q;3R;3REVERSED E;4N;3T;3U;3V;3W;2CENTRED LEFT HALF RING
3RIGHT HALF RING;2CHINESE TONE YANG PING;5QU;5RU;5SHANG;4YIN PING;5QU;5RU;5SHANG;2CIRCUMFLEX ACCENT
2COLON;2CROSS ACCENT;2CYRILLIC EN;3HARD SIGN;3SOFT SIGN;2DENTAL CLICK;2DOT HORIZONTAL BAR;3SLASH
3VERTICAL BAR;2DOUBLE APOSTROPHE;3PRIME;2DOWN ARROWHEAD;3TACK;2END HIGH TONE;3LOW TONE
2EXTRA-HIGH DOTTED LEFT-STEM TONE BAR;4TONE BAR;3LEFT-STEM TONE BAR;3TONE BAR
2EXTRA-LOW DOTTED LEFT-STEM TONE BAR;4TONE BAR;3LEFT-STEM TONE BAR;3TONE BAR;2GEORGIAN NAR
2GLOTTAL STOP;4WITH STROKE;2GRAVE ACCENT;2HALF TRIANGULAR COLON;2HIGH DOTTED LEFT-STEM TONE BAR
4TONE BAR;3LEFT-STEM TONE BAR;3TONE BAR;2LATERAL CLICK;2LEFT ARROWHEAD;3HALF RING;3TACK
2LOW ACUTE ACCENT;3CIRCUMFLEX ACCENT;3DOTTED LEFT-STEM TONE BAR;4TONE BAR;3DOWN ARROWHEAD
3GRAVE ACCENT;3INVERTED EXCLAMATION MARK;3LEFT ARROW;4ARROWHEAD;3LEFT-STEM TONE BAR;3MACRON
3RIGHT ARROWHEAD;3RING;3TILDE;3TONE BAR;3UP ARROWHEAD;3VERTICAL LINE;2LOWER RIGHT CORNER ANGLE
2MACRON;2MID DOTTED LEFT-STEM TONE BAR;4TONE BAR;3LEFT-STEM TONE BAR;3TONE BAR
2MIDDLE DOUBLE ACUTE ACCENT;4GRAVE ACCENT;3GRAVE ACCENT;2MINUS SIGN;2OPEN SHELF;2PLUS SIGN;2PRIME
2RAISED COLON;3DOWN ARROW;3EXCLAMATION MARK;3INVERTED EXCLAMATION MARK;3UP ARROW
2RETROFLEX CLICK WITH RETROFLEX HOOK;2REVERSED COMMA;3GLOTTAL STOP;5WITH STROKE;2RHOTIC HOOK
2RIGHT ARROWHEAD;3HALF RING;3TACK;2SHELF;2SHORT EQUALS SIGN;2SMALL A;3AE;3AIN;3ALPHA;3B;4WITH HOOK
3BARRED O;3BETA;3BOTTOM HALF O;3C;4WITH CURL;3CAPITAL AA;4B;4G;5WITH HOOK;4H;4I;5WITH STROKE
4INVERTED R;4L;5WITH BELT;4N;4OE;4R;4U;4Y;3CHI;3CLOSED OMEGA;4REVERSED OPEN E;3D;4WITH HOOK
6AND TAIL;5TAIL;3DELTA;3DEZH DIGRAPH;3DOTLESS J WITH STROKE;7AND HOOK;3DZ DIGRAPH;5WITH CURL
6RETROFLEX HOOK;3E;3ENG;3ESH;3ETH;3EZH;3F;3FENG DIGRAPH;3G;4WITH HOOK;3GAMMA;3GREEK GAMMA;4PHI;3H
4WITH HOOK;5STROKE;3HENG;4WITH HOOK;3I WITH STROKE;3IOTA;3J;4WITH CROSSED-TAIL;3K;3L;4WITH BELT
5INVERTED LAZY S;5MIDDLE TILDE;5PALATAL HOOK;5RETROFLEX HOOK;7AND BELT;3LEZH;4WITH RETROFLEX HOOK
3LIGATURE OE;3LS DIGRAPH;3LZ DIGRAPH;3M;4WITH HOOK;3N WITH LEFT HOOK;5RETROFLEX HOOK;3O
4WITH STROKE;3OPEN E;4O;3P;3PHI;3Q;3R;4WITH FISHHOOK;5TAIL;3RAMS HORN;3REVERSED E;4GLOTTAL STOP
4OPEN E;3S;4WITH CURL;5HOOK;3SCHWA;3SCRIPT G;3SIDEWAYS U;3T;4WITH PALATAL HOOK;5RETROFLEX HOOK
3TC DIGRAPH WITH CURL;3TESH DIGRAPH;3THETA;3TOP HALF O;3TS DIGRAPH;5WITH RETROFLEX HOOK;3TURNED A
4AE;4ALPHA;4H;4I;4M;5WITH LONG LEG;4OPEN E;4R;5WITH HOOK;6LONG LEG;8AND RETROFLEX HOOK;4V;4W;4Y
5WITH BELT;3U;4BAR;4WITH LEFT HOOK;3UPSILON;3V;4WITH HOOK;5RIGHT HOOK;3W;3X;3Y;3Z;4WITH CURL
5RETROFLEX HOOK;2STRESS AND HIGH TONE;4LOW TONE;2SUPERSCRIPT HALF TRIANGULAR COLON
3TRIANGULAR COLON;2TRIANGULAR COLON;2TURNED COMMA;2UNASPIRATED;2UP ARROWHEAD;3TACK;2US
2VERTICAL LINE;2VOICING;2YANG DEPARTING TONE MARK;2YIN DEPARTING TONE MARK;0MODULO TWO SUM
0MONEY BAG;1WITH WINGS;0MONEY-MOUTH FACE;0MONGOLIAN BIRGA;2WITH DOUBLE ORNAMENT;3ORNAMENT;1COLON
1COMMA;1DIGIT EIGHT;2FIVE;2FOUR;2NINE;2ONE;2SEVEN;2SIX;2THREE;2TWO;2ZERO
1DOUBLE BIRGA WITH ORNAMENT;1ELLIPSIS;1FOUR DOTS;1FREE VARIATION SELECTOR FOUR;4ONE;4THREE;4TWO
1FULL STOP;1INVERTED BIRGA;3WITH DOUBLE ORNAMENT;1LETTER A;2ALI GALI A;4AH;4ANUSVARA ONE;4BALUDA
4CA;4DA;4DAGALGA;4DAMARU;4DDA;4HALF U;5YA;4I;4INVERTED UBADAMA;4KA;4NGA;4NNA;4PA;4PHA;4SSA;4TA
4THREE BALUDA;4TTA;4TTHA;4UBADAMA;4VISARGA ONE;4ZA;4ZHA;2ANG;2BA;2CHA;3WITH TWO DOTS;2CHI;2DA;2E
2EE;2FA;2GA;2HAA;2I;2JA;2KA;2KHA;2LA;2LHA;2MA;2MANCHU ALI GALI BHA;5CA;5CYA;5DDHA;5DHA;5GHA;5JHA
5LHA;5NGA;5SSA;5TA;5TTA;5ZA;5ZHA;3FA;3I;3KA;3RA;3ZHA;2NA;2O;2OE;2PA;2QA;2RA;2SA;2SHA;2SIBE ANG;3CHA
3DA;3E;3FA;3GA;3GAA;3HA;3HAA;3I;3IY;3JA;3KA;3PA;3RAA;3SHA;3TA;3TSA;3U;3UE;3ZA;3ZHA;2TA
2TODO ALI GALI TA;5ZHA;3ANG;3BA;3CHA;3DA;3DZA;3E;3GA;3GAA;3HAA;3I;3JA;3JIA;3KA;3LONG VOWEL SIGN;3MA
3NIA;3O;3OE;3PA;3QA;3TA;3TSA;3U;3UE;3WA;3YA;2TSA;2U;2UE;2WA;2YA;2ZA;2ZHI;2ZRA;1MANCHU COMMA
2FULL STOP;1NIRUGU;1ROTATED BIRGA;3WITH DOUBLE ORNAMENT;4ORNAMENT;1SIBE SYLLABLE BOUNDARY MARKER
1SWIRL BIRGA;3WITH DOUBLE ORNAMENT;4ORNAMENT;1TODO SOFT HYPHEN;1TRIPLE BIRGA WITH ORNAMENT
1TURNED SWIRL BIRGA WITH DOUBLE ORNAMENT;1VOWEL SEPARATOR;0MONKEY;1FACE;0MONOGRAM FOR EARTH;2YANG
2YIN;0MONORAIL;0MONOSTABLE SYMBOL;0MOOD BUBBLE;0MOON CAKE;1VIEWING CEREMONY;0MOSQUE;0MOSQUITO
0MOTHER CHRISTMAS;0MOTOR BOAT;1SCOOTER;0MOTORIZED WHEELCHAIR;0MOTORWAY;0MOUNT FUJI;0MOUNTAIN
1BICYCLIST;1CABLEWAY;1RAILWAY;0MOUSE;1FACE;1TRAP;0MOUTH;0MOVIE CAMERA;0MOYAI;0MRO DANDA
1DIGIT EIGHT;2FIVE;2FOUR;2NINE;2ONE;2SEVEN;2SIX;2THREE;2TWO;2ZERO;1DOUBLE DANDA;1LETTER A;2BA;2CHU
2DA;2DAI;2E;2EA;2HAI;2HAO;2KEAAE;2KHAI;2KO;2LA;2LAN;2MAEM;2MIM;2NGI;2NIN;2O;2OL;2OO;2PA;2PHI;2RI
2RO;2SHI;2TA;2TEK;2THEA;2WA;2YO;0MUCH GREATER-THAN;1LESS-THAN;0MULTANI LETTER A;2BA;2BHA;2CA;2CHA
2DA;2DDA;2DDDA;2DDHA;2DHA;2E;2GA;2GHA;2HA;2I;2JA;2JJA;2KA;2KHA;2LA;2MA;2NA;2NNA;2NYA;2PA;2PHA;2RA
2RHA;2RRA;2SA;2TA;2THA;2TTA;2TTHA;2U;2VA;2YA;1SECTION MARK;0MULTIMAP;0MULTIPLE MUSICAL NOTES
0MULTIPLICATION SIGN;2IN DOUBLE CIRCLE;3LEFT HALF CIRCLE;3RIGHT HALF CIRCLE;3TRIANGLE
2WITH DOT ABOVE;3UNDERBAR;1X;0MULTISET;1MULTIPLICATION;1UNION;0MUSHROOM;0MUSIC FLAT SIGN
1NATURAL SIGN;1SHARP SIGN;0MUSICAL KEYBOARD;2WITH JACKS;1NOTE;1SCORE;1SYMBOL ARPEGGIATO DOWN;3UP
2BEGIN BEAM;3PHRASE;3SLUR;3TIE;2BRACE;2BRACKET;2BREATH MARK;2BREVE;2BREVIS;3REST;2C CLEF;2CAESURA
2CIRCLE X NOTEHEAD;2CLIMACUS;2CLIVIS;2CLUSTER NOTEHEAD BLACK;4WHITE;2CODA;2COMBINING ACCENT
3ACCENT-STACCATO;3AUGMENTATION DOT;3BEND;3DOIT;3DOUBLE TONGUE;3DOWN BOW;3FLAG-1;3FLAG-2;3FLAG-3
3FLAG-4;3FLAG-5;3FLIP;3HARMONIC;3LOURE;3MARCATO;3MARCATO-STACCATO;3RIP;3SMEAR;3SNAP PIZZICATO
3SPRECHGESANG STEM;3STACCATISSIMO;3STACCATO;3STEM;3TENUTO;3TREMOLO-1;3TREMOLO-2;3TREMOLO-3
3TRIPLE TONGUE;3UP BOW;2COMMON TIME;2CRESCENDO;2CROIX;2CUT TIME;2DA CAPO;2DAL SEGNO;2DAMP;3ALL
2DASHED BARLINE;2DECRESCENDO;2DEGREE SLASH;2DOUBLE BARLINE;3FLAT;3SHARP;2DRUM CLEF-1;3CLEF-2
2EIGHTH NOTE;3REST;2END BEAM;3OF STIMME;3PHRASE;3SLUR;3TIE;2F CLEF;4OTTAVA ALTA;5BASSA;2FERMATA
3BELOW;2FINAL BARLINE;2FINGERED TREMOLO-1;3TREMOLO-2;3TREMOLO-3;2FIVE-LINE STAFF;2FLAT DOWN;3UP
2FORTE;2FOUR-LINE STAFF;2FOUR-STRING FRETBOARD;2FUSA BLACK;3WHITE;2G CLEF;4OTTAVA ALTA;5BASSA
2GLISSANDO DOWN;3UP;2GRACE NOTE NO SLASH;4SLASH;2GREGORIAN C CLEF;3F CLEF;2HALF NOTE;3PEDAL MARK
3REST;2HAUPTSTIMME;2INVERTED TURN;2KIEVAN C CLEF;3EIGHTH NOTE STEM DOWN;6UP;3END OF PIECE
3FINAL NOTE;3FLAT SIGN;3HALF NOTE;3QUARTER NOTE STEM DOWN;6UP;3RECITATIVE MARK;3WHOLE NOTE;2KORON
2LEFT REPEAT SIGN;2LONGA;3IMPERFECTA REST;3PERFECTA REST;2MAXIMA;2MEZZO;2MINIMA;3BLACK;3REST
2MOON NOTEHEAD BLACK;4WHITE;2MULTI REST;2MULTIPLE MEASURE REST;2NATURAL DOWN;3UP;2NEBENSTIMME
2NOTEHEAD BLACK;2NULL NOTEHEAD;2ONE HUNDRED TWENTY-EIGHTH NOTE;5REST;2ONE-LINE STAFF
2ORNAMENT STROKE-1;3STROKE-10;3STROKE-11;3STROKE-2;3STROKE-3;3STROKE-4;3STROKE-5;3STROKE-6
3STROKE-7;3STROKE-8;3STROKE-9;2OTTAVA ALTA;3BASSA;2PARENTHESIS NOTEHEAD;2PEDAL MARK;3UP MARK
2PES SUBPUNCTIS;2PIANO;2PLUS NOTEHEAD;2PODATUS;2PORRECTUS;3FLEXUS;2QUARTER NOTE;3REST;3TONE FLAT
4SHARP;2QUINDICESIMA ALTA;3BASSA;2REPEAT DOTS;2REPEATED FIGURE-1;3FIGURE-2;3FIGURE-3
2REVERSE FINAL BARLINE;2RIGHT REPEAT SIGN;2RINFORZANDO;2SCANDICUS;3FLEXUS;2SEGNO;2SEMIBREVIS BLACK
3REST;3WHITE;2SEMIMINIMA BLACK;3REST;3WHITE;2SHARP DOWN;3UP;2SHORT BARLINE;2SINGLE BARLINE
2SIX-LINE STAFF;2SIX-STRING FRETBOARD;2SIXTEENTH NOTE;3REST;2SIXTY-FOURTH NOTE;3REST;2SORI
2SQUARE B;3NOTEHEAD BLACK;4WHITE;2SUBITO;2TEMPUS IMPERFECTUM CUM PROLATIONE IMPERFECTA
7DIMINUTION-1;7DIMINUTION-2;7DIMINUTION-3;6PERFECTA;3PERFECTUM CUM PROLATIONE IMPERFECTA;6PERFECTA
7DIMINUTION-1;2THIRTY-SECOND NOTE;3REST;2THREE-LINE STAFF;2TORCULUS;3RESUPINUS;2TR
2TRIANGLE NOTEHEAD DOWN BLACK;5WHITE;4LEFT BLACK;5WHITE;4RIGHT BLACK;5WHITE;4UP BLACK;5RIGHT BLACK
6WHITE;5WHITE;2TRIANGLE-ROUND NOTEHEAD DOWN BLACK;5WHITE;2TURN;3SLASH;3UP;2TWO-LINE STAFF;2VIRGA
2VOID NOTEHEAD;2WHOLE NOTE;3REST;2WITH FINGERNAILS;2X NOTEHEAD;2Z;0MVS;0MW
0MYANMAR CONSONANT SIGN MEDIAL HA;4RA;4WA;4YA;3MON MEDIAL LA;5MA;5NA;3SHAN MEDIAL WA;1DIGIT EIGHT
2FIVE;2FOUR;2NINE;2ONE;2SEVEN;2SIX;2THREE;2TWO;2ZERO;1LETTER A;2AITON RA;2AU;2BA;2BHA;2CA;2CHA;2DA
2DDA;2DDHA;2DHA;2E;2EASTERN PWO KAREN GHWA;5NNA;5YWA;2GA;2GHA;2GREAT SA;2HA;2I;2II;2JA;2JHA;2KA
2KHA;2KHAMTI CA;3CHA;3DDA;3DDHA;3DHA;3FA;3GA;3HA;3HHA;3JA;3JHA;3LLA;3NA;3NYA;3RA;3SA;3TTA;3TTHA;3XA
3ZA;2LA;2LLA;2MA;2MON BBA;3BBE;3E;3JHA;3NGA;2NA;2NGA;2NNA;2NNYA;2NYA;2O;2PA;2PHA;2RA
2RUMAI PALAUNG FA;2SA;2SGAW KAREN SHA;2SHA;2SHAN A;3BA;3BHA;3CA;3CHA;3DA;3FA;3GA;3GHA;3HA;3JHA;3KA
3KHA;3NA;3NNA;3NYA;3PHA;3THA;3ZA;2SHWE PALAUNG CHA;4SHA;2SSA;2TA;2TAI LAING BA;4BHA;4DA;4DDA;4DDHA
4DHA;4FA;4GA;4GHA;4JA;4JHA;4LLA;4NNA;4NYA;2THA;2TTA;2TTHA;2U;2UU;2VOCALIC L;3LL;3R;3RR;2WA
2WESTERN PWO KAREN PWA;5THA;2YA;1LOGOGRAM KHAMTI HM;3OAY;3QN;1MODIFIER LETTER KHAMTI REDUPLICATION
3SHAN REDUPLICATION;1SHAN DIGIT EIGHT;3FIVE;3FOUR;3NINE;3ONE;3SEVEN;3SIX;3THREE;3TWO;3ZERO
1SIGN ANUSVARA;2ASAT;2DOT BELOW;2KHAMTI TONE-1;3TONE-3;2LITTLE SECTION;2PAO KAREN TONE
2RUMAI PALAUNG TONE-5;2SECTION;2SHAN COUNCIL EMPHATIC TONE;4TONE-2;4TONE-3;3SAW;3TONE-2;3TONE-3
3TONE-5;3TONE-6;2TAI LAING TONE-2;4TONE-5;2VIRAMA;2VISARGA;2WESTERN PWO KAREN TONE-1;5TONE-2
5TONE-3;5TONE-4;5TONE-5;1SYMBOL AFOREMENTIONED;2AITON EXCLAMATION;3ONE;3TWO;2COMPLETED;2GENITIVE
2LOCATIVE;2SHAN EXCLAMATION;3ONE;1TAI LAING DIGIT EIGHT;4FIVE;4FOUR;4NINE;4ONE;4SEVEN;4SIX;4THREE
4TWO;4ZERO;1TONE MARK SGAW KAREN HATHI;5KE PHO;1VOWEL SIGN AA;3AI;3AITON A;4AI;3E;4ABOVE
3GEBA KAREN I;3I;3II;3KAYAH EE;4OE;4U;3MON II;4O;3SGAW KAREN EU;3SHAN AA;4E;5ABOVE;4FINAL Y
3TALL AA;3U;3UU;3VOCALIC L;4LL;4R;4RR;3WESTERN PWO KAREN EU;6UE;0N-ARY CIRCLED DOT OPERATOR
2PLUS OPERATOR;2TIMES OPERATOR;1COPRODUCT;1INTERSECTION;1LOGICAL AND;2OR;1PRODUCT
1SQUARE INTERSECTION OPERATOR;2UNION OPERATOR;1SUMMATION;1TIMES OPERATOR;1UNION;2OPERATOR WITH DOT
4PLUS;1WHITE VERTICAL BAR;0NABATAEAN CRUCIFORM NUMBER FOUR;1LETTER ALEPH;2AYIN;2BETH;2DALETH
2FINAL ALEPH;3BETH;3HE;3KAPH;3LAMEDH;3MEM;3NUN;3SHIN;3YODH;2GIMEL;2HE;2HETH;2KAPH;2LAMEDH;2MEM;2NUN
2PE;2QOPH;2RESH;2SADHE;2SAMEKH;2SHIN;2TAW;2TETH;2WAW;2YODH;2ZAYIN;1NUMBER FIVE;2FOUR;2ONE;3HUNDRED
2TEN;2THREE;2TWENTY;2TWO;0NABLA;0NAIL POLISH;0NAIRA SIGN;0NAK;0NAME BADGE;0NAND
0NANDINAGARI HEADSTROKE;1LETTER A;2AA;2AI;2AU;2BA;2BHA;2CA;2CHA;2DA;2DDA;2DDHA;2DHA;2E;2GA;2GHA;2HA
2I;2II;2JA;2JHA;2KA;2KHA;2LA;2LLA;2MA;2NA;2NGA;2NNA;2NYA;2O;2PA;2PHA;2RA;2RRA;2SA;2SHA;2SSA;2TA
2THA;2TTA;2TTHA;2U;2UU;2VA;2VOCALIC R;3RR;2YA;1SIGN ANUSVARA;2AVAGRAHA;2SIDDHAM;2VIRAMA;2VISARGA
1VOWEL SIGN AA;3AI;3AU;3E;3I;3II;3O;3PRISHTHAMATRA E;3U;3UU;3VOCALIC R;4RR;0NARROW NO-BREAK SPACE
0NATIONAL DIGIT SHAPES;1PARK;0NAUSEATED FACE;0NAZAR AMULET;0NBH;0NBSP;0NECKTIE
0NEGATED DOUBLE VERTICAL BAR DOUBLE RIGHT TURNSTILE;0NEGATIVE ACKNOWLEDGE;1CIRCLED DIGIT ZERO
2LATIN CAPITAL LETTER A;5B;5C;5D;5E;5F;5G;5H;5I;5J;5K;5L;5M;5N;5O;5P;5Q;5R;5S;5T;5U;5V;5W;5X;5Y;5Z
2NUMBER EIGHTEEN;3ELEVEN;3FIFTEEN;3FOURTEEN;3NINETEEN;3SEVENTEEN;3SIXTEEN;3THIRTEEN;3TWELVE;3TWENTY
2SQUARE;2TRIANGLE;1DIAGONAL CROSS;2DIAMOND;2MIDDLE RIGHT TO LOWER CENTRE;1SQUARED AB;2CROSS MARK
2IC;2LATIN CAPITAL LETTER A;5B;5C;5D;5E;5F;5G;5H;5I;5J;5K;5L;5M;5N;5O;5P;5Q;5R;5S;5T;5U;5V;5W;5X;5Y
5Z;2PA;2QUESTION MARK;2SA;2WC;0NEITHER A SUBSET OF NOR EQUAL TO;2SUPERSET OF NOR EQUAL TO
1APPROXIMATELY NOR ACTUALLY EQUAL TO;1GREATER-THAN NOR EQUAL TO;3EQUIVALENT TO;3LESS-THAN
1LESS-THAN NOR EQUAL TO;3EQUIVALENT TO;3GREATER-THAN;0NEL;0NEPTUNE;1FORM TWO;0NERD FACE;0NESSUS
0NEST WITH EGGS;0NESTING DOLLS;0NEUTER;0NEUTRAL CHESS BISHOP;3ROTATED NINETY DEGREES
4TWO HUNDRED SEVENTY DEGREES;2EQUIHOPPER;3ROTATED NINETY DEGREES;2KING;3ROTATED NINETY DEGREES
4TWO HUNDRED SEVENTY DEGREES;2KNIGHT;3ROTATED FORTY-FIVE DEGREES;4NINETY DEGREES
4ONE HUNDRED THIRTY-FIVE DEGREES;4THREE HUNDRED FIFTEEN DEGREES;4TWO HUNDRED SEVENTY DEGREES
6TWENTY-FIVE DEGREES;2PAWN;3ROTATED NINETY DEGREES;4TWO HUNDRED SEVENTY DEGREES;2QUEEN
3ROTATED NINETY DEGREES;4TWO HUNDRED SEVENTY DEGREES;2ROOK;3ROTATED NINETY DEGREES
4TWO HUNDRED SEVENTY DEGREES;2TURNED BISHOP;3KING;3KNIGHT;3PAWN;3QUEEN;3ROOK;1FACE;0NEW LINE
1MOON SYMBOL;2WITH FACE;1SHEQEL SIGN;1TAI LUE DIGIT EIGHT;4FIVE;4FOUR;4NINE;4ONE;4SEVEN;4SIX;4THREE
4TWO;4ZERO;3LETTER FINAL B;5D;5K;5M;5N;5NG;5V;4HIGH BA;5DA;5FA;5HA;5KA;5KVA;5LA;5MA;5NA;5NGA;5PA
5PHA;5QA;5SA;5SUA;5TA;5THA;5TSA;5VA;5XA;5XVA;5YA;4LOW BA;5DA;5FA;5HA;5KA;5KVA;5LA;5MA;5NA;5NGA;5PA
5PHA;5QA;5SA;5SUA;5TA;5THA;5TSA;5VA;5XA;5XVA;5YA;3SIGN LAE;4LAEV;3THAM DIGIT ONE;3TONE MARK-1
4MARK-2;3VOWEL SIGN AA;5AAY;5AE;5AY;5E;5II;5IY;5O;5OA;5OAY;5OY;5U;5UE;5UEY;5UU;5UY;5VOWEL SHORTENER
0NEWA ABBREVIATION SIGN;1COMMA;1DANDA;1DIGIT EIGHT;2FIVE;2FOUR;2NINE;2ONE;2SEVEN;2SIX;2THREE;2TWO
2ZERO;1DOUBLE COMMA;2DANDA;1GAP FILLER;1INSERTION SIGN;1LETTER A;2AA;2AI;2AU;2BA;2BHA;2CA;2CHA;2DA
2DDA;2DDHA;2DHA;2E;2GA;2GHA;2HA;2I;2II;2JA;2JHA;2KA;2KHA;2LA;2LHA;2MA;2MHA;2NA;2NGA;2NGHA;2NHA;2NNA
2NYA;2NYHA;2O;2PA;2PHA;2RA;2RHA;2SA;2SHA;2SSA;2TA;2THA;2TTA;2TTHA;2U;2UU;2VEDIC ANUSVARA;2VOCALIC L
3LL;3R;3RR;2WA;2YA;1OM;1PLACEHOLDER MARK;1SANDHI MARK;1SIDDHI;1SIGN ANUSVARA;2AVAGRAHA;2CANDRABINDU
2FINAL ANUSVARA;2JIHVAMULIYA;2NUKTA;2UPADHMANIYA;2VIRAMA;2VISARGA;1VOWEL SIGN AA;3AI;3AU;3E;3I;3II
3O;3U;3UU;3VOCALIC L;4LL;4R;4RR;0NEWLINE LEFT;1RIGHT;0NEWSPAPER;0NEXT LINE;1PAGE;0NIGHT WITH STARS
0NINJA;0NKO COMBINING DOUBLE DOT ABOVE;2LONG DESCENDING TONE;3HIGH TONE;3LOW TONE;3RISING TONE
2NASALIZATION MARK;2SHORT HIGH TONE;3LOW TONE;3RISING TONE;1COMMA;1DANTAYALAN;1DIGIT EIGHT;2FIVE
2FOUR;2NINE;2ONE;2SEVEN;2SIX;2THREE;2TWO;2ZERO;1DOROME SIGN;1EXCLAMATION MARK;1HIGH TONE APOSTROPHE
1LAJANYALAN;1LETTER A;2BA;2CHA;2DA;2DAGBASINNA;2E;2EE;2FA;2GBA;2HA;2I;2JA;2JONA CHA;3JA;3RA;2KA;2LA
2MA;2N;2NA;3WOLOSO;2NYA;3WOLOSO;2O;2OO;2PA;2RA;2RRA;2SA;2TA;2U;2WA;2YA;1LOW TONE APOSTROPHE
1SYMBOL GBAKURUNEN;2OO DENNEN;1TAMAN SIGN;0NL;0NNBSP;0NO BICYCLES;1BREAK HERE;1ENTRY;2SIGN
1MOBILE PHONES;1ONE UNDER EIGHTEEN SYMBOL;1PEDESTRIANS;1PIRACY;1SMOKING SYMBOL;0NO-BREAK SPACE
0NOMINAL DIGIT SHAPES;0NOMISMA SIGN;0NON-BREAKING HYPHEN;0NON-POTABLE WATER SYMBOL;0NONFORKING;0NOR
0NORDIC MARK SIGN;0NORMAL SUBGROUP OF;3OR EQUAL TO;0NORTH EAST AND SOUTH WEST ARROW;2ARROW
3AND SOUTH EAST ARROW;3CROSSING NORTH WEST ARROW;4SOUTH EAST ARROW;3WITH HOOK;2BLACK ARROW
2DOUBLE ARROW;2POINTING BUD;3LEAF;3VINE LEAF;2SANS-SERIF ARROW;2TRIANGLE-HEADED ARROW;4TO BAR
2WHITE ARROW;1INDIC FRACTION ONE EIGHTH;4HALF;4QUARTER;4SIXTEENTH;3THREE QUARTERS;4SIXTEENTHS
2PLACEHOLDER MARK;2QUANTITY MARK;2QUARTER MARK;2RUPEE MARK;1WEST AND SOUTH EAST ARROW;2ARROW
3AND NORTH EAST ARROW;3CROSSING NORTH EAST ARROW;3TO CORNER;4LONG BAR;3WITH HOOK;2BLACK ARROW
2DOUBLE ARROW;2POINTING BUD;3LEAF;3VINE LEAF;2SANS-SERIF ARROW;2TRIANGLE-HEADED ARROW;4TO BAR
2WHITE ARROW;0NORTHEAST-POINTING AIRPLANE;0NOSE;0NOT A SUBSET OF;2SUPERSET OF;1ALMOST EQUAL TO
1AN ELEMENT OF;1ASYMPTOTICALLY EQUAL TO;1CHECK MARK;1EQUAL TO;1EQUIVALENT TO;1GREATER-THAN
1IDENTICAL TO;1LESS-THAN;1NORMAL SUBGROUP OF;4OR EQUAL TO;1PARALLEL TO;1SIGN
1SQUARE IMAGE OF OR EQUAL TO;2ORIGINAL OF OR EQUAL TO;1TILDE;1TRUE
0NOTCHED LEFT SEMICIRCLE WITH THREE DOTS;1LOWER RIGHT-SHADOWED WHITE RIGHTWARDS ARROW
1RIGHT SEMICIRCLE WITH THREE DOTS;1UPPER RIGHT-SHADOWED WHITE RIGHTWARDS ARROW;0NOTE;1PAD;1PAGE
0NOTEBOOK;1WITH DECORATIVE COVER;0NUL;0NULL;0NUMBER EIGHTEEN FULL STOP;1ELEVEN FULL STOP
1FIFTEEN FULL STOP;1FOURTEEN FULL STOP;1NINETEEN FULL STOP;1SEVENTEEN FULL STOP;1SIGN
1SIXTEEN FULL STOP;1TEN FULL STOP;1THIRTEEN FULL STOP;1TWELVE FULL STOP;1TWENTY FULL STOP
0NUMERO SIGN;0NUSHU CHARACTER-1B170;1CHARACTER-1B171;1CHARACTER-1B172;1CHARACTER-1B173
1CHARACTER-1B174;1CHARACTER-1B175;1CHARACTER-1B176;1CHARACTER-1B177;1CHARACTER-1B178
1CHARACTER-1B179;1CHARACTER-1B17A;1CHARACTER-1B17B;1CHARACTER-1B17C;1CHARACTER-1B17D
1CHARACTER-1B17E;1CHARACTER-1B17F;1CHARACTER-1B180;1CHARACTER-1B181;1CHARACTER-1B182
1CHARACTER-1B183;1CHARACTER-1B184;1CHARACTER-1B185;1CHARACTER-1B186;1CHARACTER-1B187
1CHARACTER-1B188;1CHARACTER-1B189;1CHARACTER-1B18A;1CHARACTER-1B18B;1CHARACTER-1B18C
1CHARACTER-1B18D;1CHARACTER-1B18E;1CHARACTER-1B18F;1CHARACTER-1B190;1CHARACTER-1B191
1CHARACTER-1B192;1CHARACTER-1B193;1CHARACTER-1B194;1CHARACTER-1B195;1CHARACTER-1B196
1CHARACTER-1B197;1CHARACTER-1B198;1CHARACTER-1B199;1CHARACTER-1B19A;1CHARACTER-1B19B
1CHARACTER-1B19C;1CHARACTER-1B19D;1CHARACTER-1B19E;1CHARACTER-1B19F;1CHARACTER-1B1A0
1CHARACTER-1B1A1;1CHARACTER-1B1A2;1CHARACTER-1B1A3;1CHARACTER-1B1A4;1CHARACTER-1B1A5
1CHARACTER-1B1A6;1CHARACTER-1B1A7;1CHARACTER-1B1A8;1CHARACTER-1B1A9;1CHARACTER-1B1AA
1CHARACTER-1B1AB;1CHARACTER-1B1AC;1CHARACTER-1B1AD;1CHARACTER-1B1AE;1CHARACTER-1B1AF
1CHARACTER-1B1B0;1CHARACTER-1B1B1;1CHARACTER-1B1B2;1CHARACTER-1B1B3;1CHARACTER-1B1B4
1CHARACTER-1B1B5;1CHARACTER-1B1B6;1CHARACTER-1B1B7;1CHARACTER-1B1B8;1CHARACTER-1B1B9
1CHARACTER-1B1BA;1CHARACTER-1B1BB;1CHARACTER-1B1BC;1CHARACTER-1B1BD;1CHARACTER-1B1BE
1CHARACTER-1B1BF;1CHARACTER-1B1C0;1CHARACTER-1B1C1;1CHARACTER-1B1C2;1CHARACTER-1B1C3
1CHARACTER-1B1C4;1CHARACTER-1B1C5;1CHARACTER-1B1C6;1CHARACTER-1B1C7;1CHARACTER-1B1C8
1CHARACTER-1B1C9;1CHARACTER-1B1CA;1CHARACTER-1B1CB;1CHARACTER-1B1CC;1CHARACTER-1B1CD
1CHARACTER-1B1CE;1CHARACTER-1B1CF;1CHARACTER-1B1D0;1CHARACTER-1B1D1;1CHARACTER-1B1D2
1CHARACTER-1B1D3;1CHARACTER-1B1D4;1CHARACTER-1B1D5;1CHARACTER-1B1D6;1CHARACTER-1B1D7
1CHARACTER-1B1D8;1CHARACTER-1B1D9;1CHARACTER-1B1DA;1CHARACTER-1B1DB;1CHARACTER-1B1DC
1CHARACTER-1B1DD;1CHARACTER-1B1DE;1CHARACTER-1B1DF;1CHARACTER-1B1E0;1CHARACTER-1B1E1
1CHARACTER-1B1E2;1CHARACTER-1B1E3;1CHARACTER-1B1E4;1CHARACTER-1B1E5;1CHARACTER-1B1E6
1CHARACTER-1B1E7;1CHARACTER-1B1E8;1CHARACTER-1B1E9;1CHARACTER-1B1EA;1CHARACTER-1B1EB
1CHARACTER-1B1EC;1CHARACTER-1B1ED;1CHARACTER-1B1EE;1CHARACTER-1B1EF;1CHARACTER-1B1F0
1CHARACTER-1B1F1;1CHARACTER-1B1F2;1CHARACTER-1B1F3;1CHARACTER-1B1F4;1CHARACTER-1B1F5
1CHARACTER-1B1F6;1CHARACTER-1B1F7;1CHARACTER-1B1F8;1CHARACTER-1B1F9;1CHARACTER-1B1FA
1CHARACTER-1B1FB;1CHARACTER-1B1FC;1CHARACTER-1B1FD;1CHARACTER-1B1FE;1CHARACTER-1B1FF
1CHARACTER-1B200;1CHARACTER-1B201;1CHARACTER-1B202;1CHARACTER-1B203;1CHARACTER-1B204
1CHARACTER-1B205;1CHARACTER-1B206;1CHARACTER-1B207;1CHARACTER-1B208;1CHARACTER-1B209
1CHARACTER-1B20A;1CHARACTER-1B20B;1CHARACTER-1B20C;1CHARACTER-1B20D;1CHARACTER-1B20E
1CHARACTER-1B20F;1CHARACTER-1B210;1CHARACTER-1B211;1CHARACTER-1B212;1CHARACTER-1B213
1CHARACTER-1B214;1CHARACTER-1B215;1CHARACTER-1B216;1CHARACTER-1B217;1CHARACTER-1B218
1CHARACTER-1B219;1CHARACTER-1B21A;1CHARACTER-1B21B;1CHARACTER-1B21C;1CHARACTER-1B21D
1CHARACTER-1B21E;1CHARACTER-1B21F;1CHARACTER-1B220;1CHARACTER-1B221;1CHARACTER-1B222
1CHARACTER-1B223;1CHARACTER-1B224;1CHARACTER-1B225;1CHARACTER-1B226;1CHARACTER-1B227
1CHARACTER-1B228;1CHARACTER-1B229;1CHARACTER-1B22A;1CHARACTER-1B22B;1CHARACTER-1B22C
1CHARACTER-1B22D;1CHARACTER-1B22E;1CHARACTER-1B22F;1CHARACTER-1B230;1CHARACTER-1B231
1CHARACTER-1B232;1CHARACTER-1B233;1CHARACTER-1B234;1CHARACTER-1B235;1CHARACTER-1B236
1CHARACTER-1B237;1CHARACTER-1B238;1CHARACTER-1B239;1CHARACTER-1B23A;1CHARACTER-1B23B
1CHARACTER-1B23C;1CHARACTER-1B23D;1CHARACTER-1B23E;1CHARACTER-1B23F;1CHARACTER-1B240
1CHARACTER-1B241;1CHARACTER-1B242;1CHARACTER-1B243;1CHARACTER-1B244;1CHARACTER-1B245
1CHARACTER-1B246;1CHARACTER-1B247;1CHARACTER-1B248;1CHARACTER-1B249;1CHARACTER-1B24A
1CHARACTER-1B24B;1CHARACTER-1B24C;1CHARACTER-1B24D;1CHARACTER-1B24E;1CHARACTER-1B24F
1CHARACTER-1B250;1CHARACTER-1B251;1CHARACTER-1B252;1CHARACTER-1B253;1CHARACTER-1B254
1CHARACTER-1B255;1CHARACTER-1B256;1CHARACTER-1B257;1CHARACTER-1B258;1CHARACTER-1B259
1CHARACTER-1B25A;1CHARACTER-1B25B;1CHARACTER-1B25C;1CHARACTER-1B25D;1CHARACTER-1B25E
1CHARACTER-1B25F;1CHARACTER-1B260;1CHARACTER-1B261;1CHARACTER-1B262;1CHARACTER-1B263
1CHARACTER-1B264;1CHARACTER-1B265;1CHARACTER-1B266;1CHARACTER-1B267;1CHARACTER-1B268
1CHARACTER-1B269;1CHARACTER-1B26A;1CHARACTER-1B26B;1CHARACTER-1B26C;1CHARACTER-1B26D
1CHARACTER-1B26E;1CHARACTER-1B26F;1CHARACTER-1B270;1CHARACTER-1B271;1CHARACTER-1B272
1CHARACTER-1B273;1CHARACTER-1B274;1CHARACTER-1B275;1CHARACTER-1B276;1CHARACTER-1B277
1CHARACTER-1B278;1CHARACTER-1B279;1CHARACTER-1B27A;1CHARACTER-1B27B;1CHARACTER-1B27C
1CHARACTER-1B27D;1CHARACTER-1B27E;1CHARACTER-1B27F;1CHARACTER-1B280;1CHARACTER-1B281
1CHARACTER-1B282;1CHARACTER-1B283;1CHARACTER-1B284;1CHARACTER-1B285;1CHARACTER-1B286
1CHARACTER-1B287;1CHARACTER-1B288;1CHARACTER-1B289;1CHARACTER-1B28A;1CHARACTER-1B28B
1CHARACTER-1B28C;1CHARACTER-1B28D;1CHARACTER-1B28E;1CHARACTER-1B28F;1CHARACTER-1B290
1CHARACTER-1B291;1CHARACTER-1B292;1CHARACTER-1B293;1CHARACTER-1B294;1CHARACTER-1B295
1CHARACTER-1B296;1CHARACTER-1B297;1CHARACTER-1B298;1CHARACTER-1B299;1CHARACTER-1B29A
1CHARACTER-1B29B;1CHARACTER-1B29C;1CHARACTER-1B29D;1CHARACTER-1B29E;1CHARACTER-1B29F
1CHARACTER-1B2A0;1CHARACTER-1B2A1;1CHARACTER-1B2A2;1CHARACTER-1B2A3;1CHARACTER-1B2A4
1CHARACTER-1B2A5;1CHARACTER-1B2A6;1CHARACTER-1B2A7;1CHARACTER-1B2A8;1CHARACTER-1B2A9
1CHARACTER-1B2AA;1CHARACTER-1B2AB;1CHARACTER-1B2AC;1CHARACTER-1B2AD;1CHARACTER-1B2AE
1CHARACTER-1B2AF;1CHARACTER-1B2B0;1CHARACTER-1B2B1;1CHARACTER-1B2B2;1CHARACTER-1B2B3
1CHARACTER-1B2B4;1CHARACTER-1B2B5;1CHARACTER-1B2B6;1CHARACTER-1B2B7;1CHARACTER-1B2B8
1CHARACTER-1B2B9;1CHARACTER-1B2BA;1CHARACTER-1B2BB;1CHARACTER-1B2BC;1CHARACTER-1B2BD
1CHARACTER-1B2BE;1CHARACTER-1B2BF;1CHARACTER-1B2C0;1CHARACTER-1B2C1;1CHARACTER-1B2C2
1CHARACTER-1B2C3;1CHARACTER-1B2C4;1CHARACTER-1B2C5;1CHARACTER-1B2C6;1CHARACTER-1B2C7
1CHARACTER-1B2C8;1CHARACTER-1B2C9;1CHARACTER-1B2CA;1CHARACTER-1B2CB;1CHARACTER-1B2CC
1CHARACTER-1B2CD;1CHARACTER-1B2CE;1CHARACTER-1B2CF;1CHARACTER-1B2D0;1CHARACTER-1B2D1
1CHARACTER-1B2D2;1CHARACTER-1B2D3;1CHARACTER-1B2D4;1CHARACTER-1B2D5;1CHARACTER-1B2D6
1CHARACTER-1B2D7;1CHARACTER-1B2D8;1CHARACTER-1B2D9;1CHARACTER-1B2DA;1CHARACTER-1B2DB
1CHARACTER-1B2DC;1CHARACTER-1B2DD;1CHARACTER-1B2DE;1CHARACTER-1B2DF;1CHARACTER-1B2E0
1CHARACTER-1B2E1;1CHARACTER-1B2E2;1CHARACTER-1B2E3;1CHARACTER-1B2E4;1CHARACTER-1B2E5
1CHARACTER-1B2E6;1CHARACTER-1B2E7;1CHARACTER-1B2E8;1CHARACTER-1B2E9;1CHARACTER-1B2EA
1CHARACTER-1B2EB;1CHARACTER-1B2EC;1CHARACTER-1B2ED;1CHARACTER-1B2EE;1CHARACTER-1B2EF
1CHARACTER-1B2F0;1CHARACTER-1B2F1;1CHARACTER-1B2F2;1CHARACTER-1B2F3;1CHARACTER-1B2F4
1CHARACTER-1B2F5;1CHARACTER-1B2F6;1CHARACTER-1B2F7;1CHARACTER-1B2F8;1CHARACTER-1B2F9
1CHARACTER-1B2FA;1CHARACTER-1B2FB;1ITERATION MARK;0NUT AND BOLT;0NYIAKENG PUACHUE HMONG CIRCLED CA
3DIGIT EIGHT;4FIVE;4FOUR;4NINE;4ONE;4SEVEN;4SIX;4THREE;4TWO;4ZERO;3LETTER A;4AA;4CA;4DA;4DLA;4E;4EE
4FA;4GA;4HA;4HAH;4I;4KA;4LA;4MA;4MLA;4NA;4NCA;4NKA;4NPA;4NPLA;4NQA;4NRA;4NTA;4NTSA;4NTXA;4NYA;4O
4OO;4PA;4PLA;4QA;4RA;4RRA;4SA;4TA;4TSA;4TXA;4U;4VA;4W;4XA;4XYA;4YA;4ZA;3LOGOGRAM NYAJ
3SIGN FOR ANIMAL;5INVERTEBRATE;5LOCATION;5PERSON;5THING;4XW XW;3SYLLABLE LENGTHENER;3TONE-B;3TONE-D
3TONE-G;3TONE-J;3TONE-M;3TONE-S;3TONE-V;0OBJECT REPLACEMENT CHARACTER;0OBLIQUE ANGLE OPENING DOWN
3UP;1HYPHEN;0OBSERVER EYE SYMBOL;0OCR AMOUNT OF CHECK;1BELT BUCKLE;1BOW TIE
1BRANCH BANK IDENTIFICATION;1CHAIR;1CUSTOMER ACCOUNT NUMBER;1DASH;1DOUBLE BACKSLASH;1FORK;1HOOK
1INVERTED FORK;0OCTAGONAL SIGN;0OCTOPUS;0ODEN;0OFFICE BUILDING;0OGHAM FEATHER MARK;1LETTER AILM
2BEITH;2CEIRT;2COLL;2DAIR;2EABHADH;2EADHADH;2EAMHANCHOLL;2FEARN;2GORT;2IFIN;2IODHADH;2LUIS;2MUIN
2NGEADAL;2NION;2ONN;2OR;2PEITH;2RUIS;2SAIL;2STRAIF;2TINNE;2UATH;2UILLEANN;2UR
1REVERSED FEATHER MARK;1SPACE MARK;0OGONEK;0OHM SIGN;0OIL DRUM;0OK HAND SIGN;0OL CHIKI AHAD
2DIGIT EIGHT;3FIVE;3FOUR;3NINE;3ONE;3SEVEN;3SIX;3THREE;3TWO;3ZERO;2GAAHLAA TTUDDAAG;2LETTER AAJ
3AAK;3AAM;3AAW;3AG;3AL;3ANG;3AT;3EDD;3EN;3EP;3ERR;3IH;3INY;3IR;3IS;3LA;3LAA;3LE;3LI;3LO;3LU;3OB;3OH
3OTT;3OV;3UC;3UD;3UNN;3UY;2MU TTUDDAG;2MU-GAAHLAA TTUDDAAG;2PHAARKAA;2PUNCTUATION DOUBLE MUCAAD
3MUCAAD;2RELAA;0OLD CHINESE HOOK MARK;2ITERATION MARK;1HUNGARIAN CAPITAL LETTER A;4AA;4AK;4AMB;4AND
4CLOSE E;4E;4EB;4EC;4ECH;4ECS;4ED;4EE;4EF;4EG;4EGY;4EH;4EJ;4EK;4EL;4ELY;4EM;4EMP;4EN;4ENC;4ENT
4ENT-SHAPED SIGN;4ENY;4EP;4ER;4ES;4ESZ;4ET;4ETY;4EV;4EZ;4EZS;4I;4II;4NIKOLSBURG OE;5UE;4O;4OEE;4OO
4RUDIMENTA OE;5UE;4SHORT ER;4U;4UNK;4US;4UU;2NUMBER FIFTY;3FIVE;3ONE;4HUNDRED;4THOUSAND;3TEN
2SMALL LETTER A;4AA;4AK;4AMB;4AND;4CLOSE E;4E;4EB;4EC;4ECH;4ECS;4ED;4EE;4EF;4EG;4EGY;4EH;4EJ;4EK
4EL;4ELY;4EM;4EMP;4EN;4ENC;4ENT;4ENT-SHAPED SIGN;4ENY;4EP;4ER;4ES;4ESZ;4ET;4ETY;4EV;4EZ;4EZS;4I;4II
4NIKOLSBURG OE;5UE;4O;4OEE;4OO;4RUDIMENTA OE;5UE;4SHORT ER;4U;4UNK;4US;4UU;1ITALIC LETTER A;3BE
3CHE;3DE;3E;3EF;3EKS;3EL;3EM;3EN;3ER;3ERS;3ES;3ESH;3ESS;3HE;3I;3II;3KA;3KE;3KHE;3KU;3NORTHERN TSE
3O;3PE;3PHE;3SHE;3SOUTHERN TSE;3TE;3THE;3U;3UU;3VE;3YE;3ZE;2NUMERAL FIFTY;3FIVE;3ONE;3TEN;1KEY
1NORTH ARABIAN LETTER AIN;4ALEF;4BEH;4DAD;4DAL;4ES-1;4ES-2;4ES-3;4FEH;4GEEM;4GHAIN;4HAH;4HEH;4KAF
4KHAH;4LAM;4MEEM;4NOON;4QAF;4REH;4SAD;4TAH;4TEH;4THAL;4THEH;4WAW;4YEH;4ZAH;4ZAIN;3NUMBER ONE;4TEN
4TWENTY;1PERMIC LETTER AN;3BUR;3CHERY;3DOI;3DZHOI;3DZITA;3E;3EF;3GAI;3HA;3I;3IA;3IE;3KOKE;3LEI
3MENOE;3NENOE;3O;3OO;3PEEI;3REI;3SHCHOOI;3SHOOI;3SII;3TAI;3TSIU;3U;3VER;3VOOI;3YA;3YAT;3YER;3YERI
3YERU;3YRY;3YU;3ZATA;3ZHOI;1PERSIAN NUMBER HUNDRED;3ONE;3TEN;3TWENTY;3TWO;2SIGN A;3AURAMAZDAA
3AURAMAZDAA-2;3AURAMAZDAAHA;3BA;3BAGA;3BUUMISH;3CA;3DA;3DAHYAAUSH;3DAHYAAUSH-2;3DI;3DU;3FA;3GA;3GU
3HA;3I;3JA;3JI;3KA;3KU;3LA;3MA;3MI;3MU;3NA;3NU;3PA;3RA;3RU;3SA;3SHA;3SSA;3TA;3THA;3TU;3U;3VA;3VI
3XA;3XSHAAYATHIYA;3YA;3ZA;2WORD DIVIDER;1PERSONAL COMPUTER;1SOGDIAN FRACTION ONE HALF;2LETTER ALEPH
3ALTERNATE AYIN;3AYIN;3BETH;3FINAL ALEPH;4BETH;4HE;4NUN;5WITH VERTICAL TAIL;4SADHE
5WITH VERTICAL TAIL;4TAW;5WITH VERTICAL TAIL;3GIMEL;3HE;3HETH;3KAPH;3LAMEDH;3MEM;3NUN;3PE
3RESH-AYIN-DALETH;3SADHE;3SAMEKH;3SHIN;3TAW;3WAW;3YODH;3ZAYIN;2LIGATURE AYIN-DALETH;2NUMBER FIVE
3FOUR;3ONE;4HUNDRED;3TEN;3THIRTY;3THREE;3TWENTY;3TWO;1SOUTH ARABIAN LETTER ALEF;4AYN;4BETH;4DALETH
4DHADHE;4DHALETH;4FE;4GHAYN;4GIMEL;4HE;4HETH;4KAPH;4KHETH;4LAMEDH;4MEM;4NUN;4QOPH;4RESH;4SADHE
4SAMEKH;4SAT;4SHIN;4TAW;4TETH;4THAW;4THETH;4WAW;4YODH;4ZAYN;3NUMBER FIFTY;4ONE;3NUMERIC INDICATOR
1TURKIC LETTER ORKHON A;4AB;4AD;4AEB;4AED;4AEG;4AEK;4AEL;4AEN;4AER;4AES;4AET;4AEY;4AG;4AL;4AN;4AQ
4AR;4AS;4ASH;4AT;4AY;4BASH;4EC;4ELT;4EM;4ENC;4ENG;4ENT;4ENY;4EP;4ESH;4EZ;4I;4IC;4IQ;4O;4OE;4OEK;4OP
4OQ;4OT;3YENISEI A;4AB;4AD;4AE;4AEB;4AEG;4AEK;4AEN;4AENG;4AET;4AEY;4AG;4AL;4ANG;4AQ;4AR;4ASH;4AT
4AY;4E;4EC;4ENC;4ENT;4ENY;4ESH;4EZ;4I;4IQ;4OE;4OEK;4OQ;1UYGHUR COMBINING DOT ABOVE;4BELOW
3TWO DOTS ABOVE;5BELOW;2LETTER ALEPH;3BETH;3FINAL HETH;3GIMEL-HETH;3KAPH;3LAMEDH;3LESH;3MEM;3NUN
3PE;3RESH;3SADHE;3SAMEKH;3SHIN;3TAW;3WAW;3YODH;3ZAYIN;2PUNCTUATION BAR;3FOUR DOTS;3TWO BARS;4DOTS
0OLDER ADULT;1MAN;1WOMAN;0OLIVE;0OM SYMBOL;0ON WITH EXCLAMATION MARK WITH LEFT RIGHT ARROW ABOVE
0ONCOMING AUTOMOBILE;1BUS;1FIRE ENGINE;1POLICE CAR;1TAXI;0ONE BUTTON MOUSE;1DOT LEADER
2OVER TWO DOTS PUNCTUATION;0ONE-PIECE SWIMSUIT;0ONION;0OPEN BOOK;1BOX;1CENTRE ASTERISK;2BLACK STAR
2CROSS;2TEARDROP-SPOKED ASTERISK;1FILE FOLDER;1FOLDER;1HANDS SIGN;1LOCK;1MAILBOX WITH LOWERED FLAG
3RAISED FLAG;1SUBSET;1SUPERSET;0OPEN-CIRCUIT-OUTPUT H-TYPE SYMBOL;1L-TYPE SYMBOL
0OPEN-OUTLINED RIGHTWARDS ARROW;0OPERATING SYSTEM COMMAND;0OPHIUCHUS;0OPPOSITION;0OPTICAL DISC
2ICON;0OPTION KEY;0OR WITH DOT INSIDE;0ORANGE BOOK;1HEART;0ORANGUTAN;0ORIGINAL OF
0ORIYA AI LENGTH MARK;1AU LENGTH MARK;1DIGIT EIGHT;2FIVE;2FOUR;2NINE;2ONE;2SEVEN;2SIX;2THREE;2TWO
2ZERO;1FRACTION ONE EIGHTH;3HALF;3QUARTER;3SIXTEENTH;2THREE QUARTERS;3SIXTEENTHS;1ISSHAR;1LETTER A
2AA;2AI;2AU;2BA;2BHA;2CA;2CHA;2DA;2DDA;2DDHA;2DHA;2E;2GA;2GHA;2HA;2I;2II;2JA;2JHA;2KA;2KHA;2LA;2LLA
2MA;2NA;2NGA;2NNA;2NYA;2O;2PA;2PHA;2RA;2RHA;2RRA;2SA;2SHA;2SSA;2TA;2THA;2TTA;2TTHA;2U;2UU;2VA
2VOCALIC L;3LL;3R;3RR;2WA;2YA;2YYA;1SIGN ANUSVARA;2AVAGRAHA;2CANDRABINDU;2NUKTA;2OVERLINE;2VIRAMA
2VISARGA;1VOWEL SIGN AA;3AI;3AU;3E;3I;3II;3O;3U;3UU;3VOCALIC L;4LL;4R;4RR;0ORNATE LEFT PARENTHESIS
1RIGHT PARENTHESIS;0ORTHODOX CROSS;0OSAGE CAPITAL LETTER A;3AH;3AI;3AIN;3BRA;3CHA;3DHA;3E;3EHCHA
3EHKA;3EHPA;3EHTA;3EHTSA;3EIN;3GHA;3HA;3HYA;3I;3KA;3KHA;3KYA;3LA;3MA;3NA;3O;3OIN;3PA;3SA;3SHA;3TA
3TSA;3TSHA;3U;3WA;3ZA;3ZHA;1SMALL LETTER A;3AH;3AI;3AIN;3BRA;3CHA;3DHA;3E;3EHCHA;3EHKA;3EHPA;3EHTA
3EHTSA;3EIN;3GHA;3HA;3HYA;3I;3KA;3KHA;3KYA;3LA;3MA;3NA;3O;3OIN;3PA;3SA;3SHA;3TA;3TSA;3TSHA;3U;3WA
3ZA;3ZHA;0OSC;0OSMANYA DIGIT EIGHT;2FIVE;2FOUR;2NINE;2ONE;2SEVEN;2SIX;2THREE;2TWO;2ZERO;1LETTER A
2AA;2ALEF;2BA;2CAYN;2DEEL;2DHA;2E;2EE;2FA;2GA;2HA;2I;2JA;2KAAF;2KHA;2LAAN;2MIIN;2NUUN;2O;2OO;2QAAF
2RA;2SA;2SHIIN;2TA;2U;2WAW;2XA;2YA;0OTTER;0OTTOMAN SIYAQ ALTERNATE NUMBER EIGHT;4FIVE;4FOUR
5HUNDRED;4NINE;4SEVEN;4SIX;5HUNDRED;4TEN;5THOUSAND;4THREE;4TWO;5THOUSAND;2FRACTION ONE HALF;4SIXTH
2MARRATAN;2NUMBER EIGHT;4HUNDRED;4THOUSAND;3EIGHTY;4THOUSAND;3FIFTY;4THOUSAND;3FIVE;4HUNDRED
4THOUSAND;3FORTY;4THOUSAND;3FOUR;4HUNDRED;4THOUSAND;3NINE;4HUNDRED;4THOUSAND;3NINETY;4THOUSAND;3ONE
4HUNDRED;4THOUSAND;3SEVEN;4HUNDRED;4THOUSAND;3SEVENTY;4THOUSAND;3SIX;4HUNDRED;4THOUSAND;3SIXTY
4THOUSAND;3TEN;4THOUSAND;3THIRTY;4THOUSAND;3THREE;4HUNDRED;4THOUSAND;3TWENTY;4THOUSAND;3TWO
4HUNDRED;4THOUSAND;0OUNCE SIGN;0OUTBOX TRAY;0OUTLINED BLACK STAR;1GREEK CROSS;1LATIN CROSS
1WHITE STAR;0OVERHEATED FACE;0OVERLAP;0OVERLAPPING BLACK SQUARES;1WHITE AND BLACK SQUARES;2SQUARES
0OVERLINE;0OWL;0OX;0OYSTER
"

end PciInventory.Text
