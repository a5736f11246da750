/-!
# The names of characters, A to C

The names are in the order of their words. An entry is the number of words that a name shares with
the name before it, and the words that follow them. Entries are parted by semicolons and by ends of
lines.
-/
namespace PciInventory.Text

def namesFromAToC : String := "
0ABACUS;0AC CURRENT;0ACCORDION;0ACCOUNT OF;0ACK;0ACKNOWLEDGE;0ACTIVATE ARABIC FORM SHAPING
1SYMMETRIC SWAPPING;0ACUTE ACCENT;1ANGLE;0ADDRESSED TO THE SUBJECT;0ADHESIVE BANDAGE;0ADI SHAKTI
0ADLAM ALIF LENGTHENER;1CAPITAL LETTER ALIF;3BA;3BHE;3CHI;3DAALI;3DHA;3E;3FA;3GA;3GBE;3HA;3I;3JIIM
3KAF;3KHA;3KPO;3LAAM;3MIIM;3NHA;3NUN;3NYA;3O;3PE;3QAAF;3RA;3SHA;3SINNYIIYHE;3TU;3U;3VA;3WAW;3YA
3YHE;3ZAL;1CONSONANT MODIFIER;1DIGIT EIGHT;2FIVE;2FOUR;2NINE;2ONE;2SEVEN;2SIX;2THREE;2TWO;2ZERO
1GEMINATE CONSONANT MODIFIER;1GEMINATION MARK;1HAMZA;1INITIAL EXCLAMATION MARK;2QUESTION MARK
1NASALIZATION MARK;1NUKTA;1SMALL LETTER ALIF;3BA;3BHE;3CHI;3DAALI;3DHA;3E;3FA;3GA;3GBE;3HA;3I;3JIIM
3KAF;3KHA;3KPO;3LAAM;3MIIM;3NHA;3NUN;3NYA;3O;3PE;3QAAF;3RA;3SHA;3SINNYIIYHE;3TU;3U;3VA;3WAW;3YA
3YHE;3ZAL;1VOWEL LENGTHENER;0ADMETOS;0ADMISSION TICKETS;0ADULT;0AEGEAN CHECK MARK
1DRY MEASURE FIRST SUBUNIT;1LIQUID MEASURE FIRST SUBUNIT;1MEASURE SECOND SUBUNIT;2THIRD SUBUNIT
1NUMBER EIGHT;3HUNDRED;3THOUSAND;2EIGHTY;3THOUSAND;2FIFTY;3THOUSAND;2FIVE;3HUNDRED;3THOUSAND;2FORTY
3THOUSAND;2FOUR;3HUNDRED;3THOUSAND;2NINE;3HUNDRED;3THOUSAND;2NINETY;3THOUSAND;2ONE;3HUNDRED
3THOUSAND;2SEVEN;3HUNDRED;3THOUSAND;2SEVENTY;3THOUSAND;2SIX;3HUNDRED;3THOUSAND;2SIXTY;3THOUSAND
2TEN;3THOUSAND;2THIRTY;3THOUSAND;2THREE;3HUNDRED;3THOUSAND;2TWENTY;3THOUSAND;2TWO;3HUNDRED
3THOUSAND;1WEIGHT BASE UNIT;2FIRST SUBUNIT;2FOURTH SUBUNIT;2SECOND SUBUNIT;2THIRD SUBUNIT
1WORD SEPARATOR DOT;3LINE;0AERIAL TRAMWAY;0AFGHANI SIGN;0AHOM CONSONANT SIGN MEDIAL LA;4LIGATING RA
4RA;1DIGIT EIGHT;2FIVE;2FOUR;2NINE;2ONE;2SEVEN;2SIX;2THREE;2TWO;2ZERO;1LETTER A;2ALTERNATE BA;3GA
3TA;2BA;2BHA;2CA;2CHA;2DA;2DDA;2DDHA;2DHA;2GA;2GHA;2HA;2JA;2JHA;2KA;2KHA;2LA;2LLA;2MA;2NA;2NGA;2NNA
2NYA;2PA;2PHA;2RA;2SA;2TA;2THA;2TTA;2TTHA;1NUMBER TEN;2TWENTY;1SIGN KILLER;2RULAI;2SECTION
2SMALL SECTION;1SYMBOL VI;1VOWEL SIGN A;3AA;3AI;3AM;3AW;3E;3I;3II;3O;3U;3UU;0AIRPLANE;1ARRIVING
1DEPARTURE;0AKTIESELSKAB;0ALARM CLOCK;0ALCHEMICAL SYMBOL FOR AIR;3ALEMBIC;3ALKALI;3ALKALI-2;3ALUM
3AMALGAM;3ANTIMONY ORE;3AQUA REGIA;4REGIA-2;4VITAE;4VITAE-2;3AQUAFORTIS;3ARSENIC;3ASHES
3AURIPIGMENT;3BATH OF MARY;5VAPOURS;3BISMUTH ORE;3BLACK SULFUR;3BORAX;3BORAX-2;3BORAX-3;3BRICK
3CADUCEUS;3CALX;3CAPUT MORTUUM;3CINNABAR;3COPPER ANTIMONIATE;4ORE;3CROCUS OF COPPER;5COPPER-2;5IRON
3CRUCIBLE;3CRUCIBLE-2;3CRUCIBLE-3;3CRUCIBLE-4;3CRUCIBLE-5;3DAY-NIGHT;3DISSOLVE;3DISSOLVE-2;3DISTILL
3EARTH;3FIRE;3GOLD;3GUM;3HALF DRAM;4OUNCE;3HORSE DUNG;3HOUR;3IRON ORE;4ORE-2;3IRON-COPPER ORE
3LEAD ORE;3LODESTONE;3MARCASITE;3MERCURY SUBLIMATE;4SUBLIMATE-2;4SUBLIMATE-3;3MONTH;3NIGHT;3NITRE
3OIL;3PHILOSOPHERS SULFUR;3POT ASHES;3POWDER;3POWDERED BRICK;3PRECIPITATE;3PURIFY;3PUTREFACTION
3QUICK LIME;3QUINTESSENCE;3REALGAR;3REALGAR-2;3REGULUS;4OF ANTIMONY;5ANTIMONY-2;5IRON;3REGULUS-2
3REGULUS-3;3REGULUS-4;3RETORT;3ROCK SALT;4SALT-2;3SAL-AMMONIAC;3SALT;4OF ANTIMONY
5COPPER ANTIMONIATE;3SCEPTER OF JOVE;3SILVER;3SOAP;3SPIRIT;3STARRED TRIDENT;3STRATUM SUPER STRATUM
5STRATUM-2;3SUBLIMATE OF ANTIMONY;5COPPER;5SALT OF ANTIMONY;7COPPER;3SUBLIMATION;3SULFUR;3TARTAR
3TARTAR-2;3TIN ORE;3TINCTURE;3TRIDENT;3TUTTY;3URINE;3VERDIGRIS;3VINEGAR;4OF ANTIMONY;3VINEGAR-2
3VINEGAR-3;3VITRIOL;3VITRIOL-2;3WATER;3WAX;0ALEF SYMBOL;0ALEMBIC;0ALERT;0ALIEN MONSTER
0ALL AROUND-PROFILE;1EQUAL TO;0ALM;0ALMOST EQUAL OR EQUAL TO;2TO;3WITH CIRCUMFLEX ACCENT
0ALTERNATE ONE-WAY LEFT WAY TRAFFIC;0ALTERNATIVE KEY SYMBOL;0AMALGAMATION OR COPRODUCT;0AMBULANCE
0AMERICAN FOOTBALL;0AMPERSAND;0AMPHORA;0ANATOLIAN HIEROGLYPH A001;2A002;2A003;2A004;2A005;2A006
2A007;2A008;2A009;2A010;2A010A;2A011;2A012;2A013;2A014;2A015;2A016;2A017;2A018;2A019;2A020;2A021
2A022;2A023;2A024;2A025;2A026;2A026A;2A027;2A028;2A029;2A030;2A031;2A032;2A033;2A034;2A035;2A036
2A037;2A038;2A039;2A039A;2A040;2A041;2A041A;2A042;2A043;2A044;2A045;2A045A;2A046;2A046A;2A046B
2A047;2A048;2A049;2A050;2A051;2A052;2A053;2A054;2A055;2A056;2A057;2A058;2A059;2A060;2A061;2A062
2A063;2A064;2A065;2A066;2A066A;2A066B;2A066C;2A067;2A068;2A069;2A070;2A071;2A072;2A073;2A074;2A075
2A076;2A077;2A078;2A079;2A080;2A081;2A082;2A083;2A084;2A085;2A086;2A087;2A088;2A089;2A090;2A091
2A092;2A093;2A094;2A095;2A096;2A097;2A097A;2A098;2A098A;2A099;2A100;2A100A;2A101;2A101A;2A102
2A102A;2A103;2A104;2A104A;2A104B;2A104C;2A105;2A105A;2A105B;2A106;2A107;2A107A;2A107B;2A107C;2A108
2A109;2A110;2A110A;2A110B;2A111;2A112;2A113;2A114;2A115;2A115A;2A116;2A117;2A118;2A119;2A120;2A121
2A122;2A123;2A124;2A125;2A125A;2A126;2A127;2A128;2A129;2A130;2A131;2A132;2A133;2A134;2A135;2A135A
2A136;2A137;2A138;2A139;2A140;2A141;2A142;2A143;2A144;2A145;2A146;2A147;2A148;2A149;2A150;2A151
2A152;2A153;2A154;2A155;2A156;2A157;2A158;2A159;2A160;2A161;2A162;2A163;2A164;2A165;2A166;2A167
2A168;2A169;2A170;2A171;2A172;2A173;2A174;2A175;2A176;2A177;2A178;2A179;2A180;2A181;2A182;2A183
2A184;2A185;2A186;2A187;2A188;2A189;2A190;2A191;2A192;2A193;2A194;2A195;2A196;2A197;2A198;2A199
2A200;2A201;2A202;2A202A;2A202B;2A203;2A204;2A205;2A206;2A207;2A207A;2A208;2A209;2A209A;2A210;2A211
2A212;2A213;2A214;2A215;2A215A;2A216;2A216A;2A217;2A218;2A219;2A220;2A221;2A222;2A223;2A224;2A225
2A226;2A227;2A227A;2A228;2A229;2A230;2A231;2A232;2A233;2A234;2A235;2A236;2A237;2A238;2A239;2A240
2A241;2A242;2A243;2A244;2A245;2A246;2A247;2A248;2A249;2A250;2A251;2A252;2A253;2A254;2A255;2A256
2A257;2A258;2A259;2A260;2A261;2A262;2A263;2A264;2A265;2A266;2A267;2A267A;2A268;2A269;2A270;2A271
2A272;2A273;2A274;2A275;2A276;2A277;2A278;2A279;2A280;2A281;2A282;2A283;2A284;2A285;2A286;2A287
2A288;2A289;2A289A;2A290;2A291;2A292;2A293;2A294;2A294A;2A295;2A296;2A297;2A298;2A299;2A299A;2A300
2A301;2A302;2A303;2A304;2A305;2A306;2A307;2A308;2A309;2A309A;2A310;2A311;2A312;2A313;2A314;2A315
2A316;2A317;2A318;2A319;2A320;2A321;2A322;2A323;2A324;2A325;2A326;2A327;2A328;2A329;2A329A;2A330
2A331;2A332A;2A332B;2A332C;2A333;2A334;2A335;2A336;2A336A;2A336B;2A336C;2A337;2A338;2A339;2A340
2A341;2A342;2A343;2A344;2A345;2A346;2A347;2A348;2A349;2A350;2A351;2A352;2A353;2A354;2A355;2A356
2A357;2A358;2A359;2A359A;2A360;2A361;2A362;2A363;2A364;2A364A;2A365;2A366;2A367;2A368;2A368A;2A369
2A370;2A371;2A371A;2A372;2A373;2A374;2A375;2A376;2A377;2A378;2A379;2A380;2A381;2A381A;2A382
2A383 RA OR RI;2A383A;2A384;2A385;2A386;2A386A;2A387;2A388;2A389;2A390;2A391;2A392;2A393 EIGHT
2A394;2A395;2A396;2A397;2A398;2A399;2A400;2A401;2A402;2A403;2A404;2A405;2A406;2A407;2A408;2A409
2A410 BEGIN LOGOGRAM MARK;2A410A END LOGOGRAM MARK;2A411;2A412;2A413;2A414;2A415;2A416;2A417;2A418
2A419;2A420;2A421;2A422;2A423;2A424;2A425;2A426;2A427;2A428;2A429;2A430;2A431;2A432;2A433;2A434
2A435;2A436;2A437;2A438;2A439;2A440;2A441;2A442;2A443;2A444;2A445;2A446;2A447;2A448;2A449;2A450
2A450A;2A451;2A452;2A453;2A454;2A455;2A456;2A457;2A457A;2A458;2A459;2A460;2A461;2A462;2A463;2A464
2A465;2A466;2A467;2A468;2A469;2A470;2A471;2A472;2A473;2A474;2A475;2A476;2A477;2A478;2A479;2A480
2A481;2A482;2A483;2A484;2A485;2A486;2A487;2A488;2A489;2A490;2A491;2A492;2A493;2A494;2A495;2A496
2A497;2A501;2A502;2A503;2A504;2A505;2A506;2A507;2A508;2A509;2A510;2A511;2A512;2A513;2A514;2A515
2A516;2A517;2A518;2A519;2A520;2A521;2A522;2A523;2A524;2A525;2A526;2A527;2A528;2A529;2A530
0ANATOMICAL HEART;0ANCHOR;0AND WITH DOT;0ANGER SYMBOL;0ANGLE;1WITH S INSIDE;2UNDERBAR;0ANGRY FACE
0ANGSTROM SIGN;0ANGUISHED FACE;0ANKH;0ANT;0ANTENNA WITH BARS;0ANTICLOCKWISE CLOSED CIRCLE ARROW
1CONTOUR INTEGRAL;1DOWNWARDS AND UPWARDS OPEN CIRCLE ARROWS;1GAPPED CIRCLE ARROW;1INTEGRATION
1OPEN CIRCLE ARROW;1TOP SEMICIRCLE ARROW;1TRIANGLE-HEADED BOTTOM U-SHAPED ARROW
2LEFT U-SHAPED ARROW;2OPEN CIRCLE ARROW;2RIGHT U-SHAPED ARROW;2TOP U-SHAPED ARROW;0APC
0APL FUNCTIONAL SYMBOL ALPHA;4UNDERBAR;3BACKSLASH BAR;3CIRCLE BACKSLASH;4DIAERESIS;4JOT;4STAR
4STILE;4UNDERBAR;3COMMA BAR;3DEL DIAERESIS;4STILE;4TILDE;3DELTA STILE;4UNDERBAR;3DIAMOND UNDERBAR
3DOWN CARET TILDE;4SHOE STILE;4TACK JOT;5UNDERBAR;3DOWNWARDS VANE;3EPSILON UNDERBAR
3GREATER-THAN DIAERESIS;3I-BEAM;3IOTA;4UNDERBAR;3JOT DIAERESIS;4UNDERBAR;3LEFT SHOE STILE
3LEFTWARDS VANE;3OMEGA;4UNDERBAR;3QUAD;4BACKSLASH;4CIRCLE;4COLON;4DEL;4DELTA;4DIAMOND;4DIVIDE
4DOWN CARET;4DOWNWARDS ARROW;4EQUAL;4GREATER-THAN;4JOT;4LEFTWARDS ARROW;4LESS-THAN;4NOT EQUAL
4QUESTION;4RIGHTWARDS ARROW;4SLASH;4UP CARET;4UPWARDS ARROW;3QUOTE QUAD;4UNDERBAR;3RHO
3RIGHTWARDS VANE;3SEMICOLON UNDERBAR;3SLASH BAR;3SQUISH QUAD;3STAR DIAERESIS;3STILE TILDE
3TILDE DIAERESIS;3UP CARET TILDE;4SHOE JOT;4TACK DIAERESIS;5JOT;5OVERBAR;3UPWARDS VANE;3ZILDE
0APOLLON;0APOSTROPHE;0APPLICATION PROGRAM COMMAND;0APPROACHES THE LIMIT
0APPROXIMATELY BUT NOT ACTUALLY EQUAL TO;1EQUAL OR EQUAL TO;2TO;3OR THE IMAGE OF;0AQUARIUS
0ARABIC BASELINE ROUND DOT;1COMMA;1CURLY DAMMA;2DAMMATAN;2FATHA;2FATHATAN;2KASRA;2KASRATAN;1DAMMA
2ISOLATED FORM;2MEDIAL FORM;2WITH DOT;1DAMMATAN;2ISOLATED FORM;1DATE SEPARATOR;1DECIMAL SEPARATOR
1DISPUTED END OF AYAH;1DOUBLE RIGHT ARROWHEAD ABOVE;5WITH DOT;1DOUBLED MADDA
1EMPTY CENTRE HIGH STOP;3LOW STOP;1END OF AYAH;3TEXT MARK;1FATHA;2ISOLATED FORM;2MEDIAL FORM
2WITH DOT ABOVE;3RING;3TWO DOTS;1FATHATAN;2ISOLATED FORM;1FIVE POINTED STAR;1FOOTNOTE MARKER
1FULL STOP;1HALF MADDA OVER MADDA;1HAMZA ABOVE;2BELOW;1INVERTED DAMMA;1KASRA;2ISOLATED FORM
2MEDIAL FORM;2WITH DOT BELOW;1KASRATAN;2ISOLATED FORM;1LARGE CIRCLE BELOW;2ROUND DOT ABOVE;4BELOW
4INSIDE CIRCLE BELOW;1LEFT ARROWHEAD ABOVE;3BELOW;1LETTER AE;2AFRICAN FEH;3NOON;3QAF
4WITH THREE DOTS ABOVE;2AIN;3FINAL FORM;3INITIAL FORM;3ISOLATED FORM;3MEDIAL FORM
3WITH THREE DOTS ABOVE;6BELOW;6POINTING DOWNWARDS ABOVE;4TWO DOTS ABOVE;6VERTICALLY ABOVE;2ALEF
3FINAL FORM;3ISOLATED FORM;3MAKSURA;4FINAL FORM;4ISOLATED FORM;3WASLA;4FINAL FORM;4ISOLATED FORM
3WITH ATTACHED BOTTOM RIGHT KASRA;8AND DOT ABOVE;9LEFT RING;5FATHA;5KASRA;5LEFT HAMZA;6ROUND DOT
5RIGHT HAMZA;6ROUND DOT;5ROUND DOT ABOVE;7BELOW;5TOP RIGHT FATHA;8AND DOT ABOVE;9LEFT RING
4DOT ABOVE;4EXTENDED ARABIC-INDIC DIGIT THREE ABOVE;7TWO ABOVE;4HAMZA ABOVE;6FINAL FORM
6ISOLATED FORM;5BELOW;6FINAL FORM;6ISOLATED FORM;4LEFT MIDDLE STROKE;4MADDA ABOVE;6FINAL FORM
6ISOLATED FORM;4RIGHT MIDDLE STROKE;7AND DOT ABOVE;8LEFT RING;4WAVY HAMZA ABOVE;6BELOW;2BEEH
3FINAL FORM;3INITIAL FORM;3ISOLATED FORM;3MEDIAL FORM;2BEH;3FINAL FORM;3INITIAL FORM;3ISOLATED FORM
3MEDIAL FORM;3WITH DOT BELOW AND THREE DOTS ABOVE;4HAMZA ABOVE;4INVERTED SMALL V BELOW
4SMALL MEEM ABOVE;5V;6BELOW;4THREE DOTS HORIZONTALLY BELOW;6POINTING UPWARDS BELOW
9AND TWO DOTS ABOVE;4TWO DOTS BELOW AND DOT ABOVE;2BEHEH;3FINAL FORM;3INITIAL FORM;3ISOLATED FORM
3MEDIAL FORM;2DAD;3FINAL FORM;3INITIAL FORM;3ISOLATED FORM;3MEDIAL FORM;3WITH DOT BELOW;2DAHAL
3FINAL FORM;3ISOLATED FORM;2DAL;3FINAL FORM;3ISOLATED FORM;3WITH DOT BELOW;6AND SMALL TAH
4FOUR DOTS ABOVE;4INVERTED SMALL V BELOW;5V;4RING;4THREE DOTS ABOVE DOWNWARDS;6BELOW
4TWO DOTS VERTICALLY BELOW AND SMALL TAH;2DDAHAL;3FINAL FORM;3ISOLATED FORM;2DDAL;3FINAL FORM
3ISOLATED FORM;2DOTLESS BEH;3FEH;3QAF;2DUL;3FINAL FORM;3ISOLATED FORM;2DYEH;3FINAL FORM
3INITIAL FORM;3ISOLATED FORM;3MEDIAL FORM;2E;3FINAL FORM;3INITIAL FORM;3ISOLATED FORM;3MEDIAL FORM
2FARSI YEH;4FINAL FORM;4INITIAL FORM;4ISOLATED FORM;4MEDIAL FORM
4WITH EXTENDED ARABIC-INDIC DIGIT FOUR BELOW;8THREE ABOVE;8TWO ABOVE;5INVERTED V;5THREE DOTS ABOVE
5TWO DOTS ABOVE;2FEH;3FINAL FORM;3INITIAL FORM;3ISOLATED FORM;3MEDIAL FORM;3WITH DOT BELOW
6AND THREE DOTS ABOVE;5MOVED BELOW;4THREE DOTS BELOW;6POINTING UPWARDS BELOW;4TWO DOTS BELOW;2GAF
3FINAL FORM;3INITIAL FORM;3ISOLATED FORM;3MEDIAL FORM;3WITH INVERTED STROKE;4RING;4THREE DOTS ABOVE
4TWO DOTS BELOW;2GHAIN;3FINAL FORM;3INITIAL FORM;3ISOLATED FORM;3MEDIAL FORM;3WITH DOT BELOW
4THREE DOTS ABOVE;2GRAF;2GUEH;3FINAL FORM;3INITIAL FORM;3ISOLATED FORM;3MEDIAL FORM;2HAH
3FINAL FORM;3INITIAL FORM;3ISOLATED FORM;3MEDIAL FORM;3WITH EXTENDED ARABIC-INDIC DIGIT FOUR BELOW
4HAMZA ABOVE;4INVERTED SMALL V BELOW;4SMALL ARABIC LETTER TAH ABOVE;8AND TWO DOTS;8BELOW
4THREE DOTS ABOVE;6POINTING UPWARDS BELOW;4TWO DOTS ABOVE;6VERTICAL ABOVE;2HAMZA;3ISOLATED FORM
2HEH;3DOACHASHMEE;4FINAL FORM;4INITIAL FORM;4ISOLATED FORM;4MEDIAL FORM;3FINAL FORM;3GOAL
4FINAL FORM;4INITIAL FORM;4ISOLATED FORM;4MEDIAL FORM;4WITH HAMZA ABOVE;3INITIAL FORM
3ISOLATED FORM;3MEDIAL FORM;3WITH INVERTED V;4YEH ABOVE;6FINAL FORM;6ISOLATED FORM;2HIGH HAMZA
4ALEF;4WAW;4YEH;2JEEM;3FINAL FORM;3INITIAL FORM;3ISOLATED FORM;3MEDIAL FORM;3WITH THREE DOTS ABOVE
6BELOW;4TWO DOTS ABOVE;2JEH;3FINAL FORM;3ISOLATED FORM;2KAF;3FINAL FORM;3INITIAL FORM
3ISOLATED FORM;3MEDIAL FORM;3WITH DOT ABOVE;5BELOW;4RING;4THREE DOTS BELOW;4TWO DOTS ABOVE
2KASHMIRI YEH;2KEHEH;3FINAL FORM;3INITIAL FORM;3ISOLATED FORM;3MEDIAL FORM;3WITH DOT ABOVE;4SMALL V
4THREE DOTS ABOVE;6BELOW;6POINTING UPWARDS BELOW;4TWO DOTS ABOVE;6VERTICALLY BELOW;2KHAH
3FINAL FORM;3INITIAL FORM;3ISOLATED FORM;3MEDIAL FORM;2KIRGHIZ OE;4FINAL FORM;4ISOLATED FORM;3YU
4FINAL FORM;4ISOLATED FORM;2LAM;3FINAL FORM;3INITIAL FORM;3ISOLATED FORM;3MEDIAL FORM;3WITH BAR
4DOT ABOVE;4DOUBLE BAR;4SMALL ARABIC LETTER TAH ABOVE;5V;4THREE DOTS ABOVE;6BELOW;2LOW ALEF;2MARK
2MEEM;3FINAL FORM;3INITIAL FORM;3ISOLATED FORM;3MEDIAL FORM;3WITH DOT ABOVE;5BELOW
4THREE DOTS ABOVE;2NG;3FINAL FORM;3INITIAL FORM;3ISOLATED FORM;3MEDIAL FORM;2NGOEH;3FINAL FORM
3INITIAL FORM;3ISOLATED FORM;3MEDIAL FORM;2NOON;3FINAL FORM;3GHUNNA;4FINAL FORM;4ISOLATED FORM
3INITIAL FORM;3ISOLATED FORM;3MEDIAL FORM;3WITH DOT BELOW;4INVERTED SMALL V;4RING;4SMALL TAH;5V
4THREE DOTS ABOVE;4TWO DOTS BELOW;2NYEH;3FINAL FORM;3INITIAL FORM;3ISOLATED FORM;3MEDIAL FORM;2OE
3FINAL FORM;3ISOLATED FORM;2PEH;3FINAL FORM;3INITIAL FORM;3ISOLATED FORM;3MEDIAL FORM
3WITH SMALL MEEM ABOVE;5V;2PEHEH;3FINAL FORM;3INITIAL FORM;3ISOLATED FORM;3MEDIAL FORM;2QAF
3FINAL FORM;3INITIAL FORM;3ISOLATED FORM;3MEDIAL FORM;3WITH DOT ABOVE;5BELOW;6AND NO DOTS ABOVE
4THREE DOTS ABOVE;2REH;3FINAL FORM;3ISOLATED FORM;3WITH DOT BELOW;6AND DOT ABOVE;4FOUR DOTS ABOVE
4HAMZA ABOVE;4INVERTED V;4LOOP;4RING;4SMALL ARABIC LETTER TAH AND TWO DOTS;5NOON ABOVE;5V;6BELOW
4STROKE;4TWO DOTS ABOVE;6VERTICALLY ABOVE;2RNOON;3FINAL FORM;3INITIAL FORM;3ISOLATED FORM
3MEDIAL FORM;2ROHINGYA YEH;2RREH;3FINAL FORM;3ISOLATED FORM;2SAD;3FINAL FORM;3INITIAL FORM
3ISOLATED FORM;3MEDIAL FORM;3WITH THREE DOTS ABOVE;6BELOW;4TWO DOTS BELOW;2SEEN;3FINAL FORM
3INITIAL FORM;3ISOLATED FORM;3MEDIAL FORM;3WITH DOT BELOW AND DOT ABOVE
4EXTENDED ARABIC-INDIC DIGIT FOUR ABOVE;4FOUR DOTS ABOVE;4INVERTED V
4SMALL ARABIC LETTER TAH AND TWO DOTS;4THREE DOTS BELOW;7AND THREE DOTS ABOVE
4TWO DOTS VERTICALLY ABOVE;2SHEEN;3FINAL FORM;3INITIAL FORM;3ISOLATED FORM;3MEDIAL FORM
3WITH DOT BELOW;2STRAIGHT WAW;2SUPERSCRIPT ALEF;2SWASH KAF;2TAH;3FINAL FORM;3INITIAL FORM
3ISOLATED FORM;3MEDIAL FORM;3WITH DOT BELOW;4THREE DOTS ABOVE;6BELOW;4TWO DOTS ABOVE;2TCHEH
3FINAL FORM;3INITIAL FORM;3ISOLATED FORM;3MEDIAL FORM;3WITH DOT ABOVE;4SMALL V;2TCHEHEH;3FINAL FORM
3INITIAL FORM;3ISOLATED FORM;3MEDIAL FORM;2TEH;3FINAL FORM;3INITIAL FORM;3ISOLATED FORM;3MARBUTA
4FINAL FORM;4GOAL;4ISOLATED FORM;3MEDIAL FORM;3WITH RING;4SMALL TEH ABOVE;5V
4THREE DOTS ABOVE DOWNWARDS;2TEHEH;3FINAL FORM;3INITIAL FORM;3ISOLATED FORM;3MEDIAL FORM;2THAL
3FINAL FORM;3ISOLATED FORM;2THEH;3FINAL FORM;3INITIAL FORM;3ISOLATED FORM;3MEDIAL FORM;2THIN YEH
2TTEH;3FINAL FORM;3INITIAL FORM;3ISOLATED FORM;3MEDIAL FORM;3WITH SMALL V;2TTEHEH;3FINAL FORM
3INITIAL FORM;3ISOLATED FORM;3MEDIAL FORM;2U;3FINAL FORM;3ISOLATED FORM;3WITH HAMZA ABOVE
6ISOLATED FORM;2UIGHUR KAZAKH KIRGHIZ ALEF MAKSURA INITIAL FORM;7MEDIAL FORM;2VE;3FINAL FORM
3ISOLATED FORM;2VEH;3FINAL FORM;3INITIAL FORM;3ISOLATED FORM;3MEDIAL FORM;2WAW;3FINAL FORM
3ISOLATED FORM;3WITH DOT ABOVE;5WITHIN;4EXTENDED ARABIC-INDIC DIGIT THREE ABOVE;7TWO ABOVE
4HAMZA ABOVE;6FINAL FORM;6ISOLATED FORM;4RING;4TWO DOTS ABOVE;2YEH;3BARREE;4FINAL FORM
4ISOLATED FORM;4WITH EXTENDED ARABIC-INDIC DIGIT THREE ABOVE;8TWO ABOVE;5HAMZA ABOVE;7FINAL FORM
7ISOLATED FORM;3FINAL FORM;3INITIAL FORM;3ISOLATED FORM;3MEDIAL FORM;3WITH HAMZA ABOVE;6FINAL FORM
6INITIAL FORM;6ISOLATED FORM;6MEDIAL FORM;4SMALL V;4TAIL;4THREE DOTS BELOW
4TWO DOTS BELOW AND DOT ABOVE;8HAMZA ABOVE;8SMALL NOON ABOVE;2YU;3FINAL FORM;3ISOLATED FORM;2ZAH
3FINAL FORM;3INITIAL FORM;3ISOLATED FORM;3MEDIAL FORM;2ZAIN;3FINAL FORM;3ISOLATED FORM
3WITH INVERTED V ABOVE;1LIGATURE AIN WITH ALEF MAKSURA FINAL FORM;6ISOLATED FORM;4JEEM INITIAL FORM
5ISOLATED FORM;5WITH MEEM FINAL FORM;7INITIAL FORM;4MEEM INITIAL FORM;5ISOLATED FORM
5WITH ALEF MAKSURA FINAL FORM;6MEEM FINAL FORM;7INITIAL FORM;6YEH FINAL FORM;4YEH FINAL FORM
5ISOLATED FORM;2AKBAR ISOLATED FORM;2ALAYHAA AS-SALAAM;2ALAYHE ISOLATED FORM;2ALAYHI AS-SALAAM
3AS-SALAATU WAS-SALAAM;2ALAYHIM AS-SALAAM;2ALAYHIMAA AS-SALAAM
2ALEF MAKSURA WITH SUPERSCRIPT ALEF FINAL FORM;7ISOLATED FORM;3WITH FATHATAN FINAL FORM
5ISOLATED FORM;2ALLAH ISOLATED FORM;2AZZA WA JALL;2BEH WITH ALEF MAKSURA FINAL FORM;6ISOLATED FORM
4HAH INITIAL FORM;5ISOLATED FORM;5WITH YEH FINAL FORM;4HEH INITIAL FORM;5MEDIAL FORM
4JEEM INITIAL FORM;5ISOLATED FORM;4KHAH INITIAL FORM;5ISOLATED FORM;5WITH YEH FINAL FORM
4MEEM FINAL FORM;5INITIAL FORM;5ISOLATED FORM;5MEDIAL FORM;4NOON FINAL FORM;4REH FINAL FORM
4YEH FINAL FORM;5ISOLATED FORM;4ZAIN FINAL FORM;2BISMILLAH AR-RAHMAN AR-RAHEEM
2DAD WITH ALEF MAKSURA FINAL FORM;6ISOLATED FORM;4HAH INITIAL FORM;5ISOLATED FORM
5WITH ALEF MAKSURA FINAL FORM;6YEH FINAL FORM;4JEEM INITIAL FORM;5ISOLATED FORM;4KHAH INITIAL FORM
5ISOLATED FORM;5WITH MEEM FINAL FORM;7INITIAL FORM;4MEEM INITIAL FORM;5ISOLATED FORM
4REH FINAL FORM;5ISOLATED FORM;4YEH FINAL FORM;5ISOLATED FORM;2FEH WITH ALEF MAKSURA FINAL FORM
6ISOLATED FORM;4HAH INITIAL FORM;5ISOLATED FORM;4JEEM INITIAL FORM;5ISOLATED FORM
4KHAH INITIAL FORM;5ISOLATED FORM;5WITH MEEM FINAL FORM;7INITIAL FORM;4MEEM INITIAL FORM
5ISOLATED FORM;5WITH YEH FINAL FORM;4YEH FINAL FORM;5ISOLATED FORM
2GHAIN WITH ALEF MAKSURA FINAL FORM;6ISOLATED FORM;4JEEM INITIAL FORM;5ISOLATED FORM
4MEEM INITIAL FORM;5ISOLATED FORM;5WITH ALEF MAKSURA FINAL FORM;6MEEM FINAL FORM;6YEH FINAL FORM
4YEH FINAL FORM;5ISOLATED FORM;2HAH WITH ALEF MAKSURA FINAL FORM;6ISOLATED FORM;4JEEM INITIAL FORM
5ISOLATED FORM;5WITH YEH FINAL FORM;4MEEM INITIAL FORM;5ISOLATED FORM;5WITH ALEF MAKSURA FINAL FORM
6YEH FINAL FORM;4YEH FINAL FORM;5ISOLATED FORM;2HEH WITH ALEF MAKSURA ISOLATED FORM
4JEEM INITIAL FORM;5ISOLATED FORM;4MEEM INITIAL FORM;5ISOLATED FORM;5WITH JEEM INITIAL FORM
6MEEM INITIAL FORM;4SUPERSCRIPT ALEF INITIAL FORM;4YEH ISOLATED FORM;2JALLAJALALOUHOU
2JEEM WITH ALEF MAKSURA FINAL FORM;6ISOLATED FORM;4HAH INITIAL FORM;5ISOLATED FORM
5WITH ALEF MAKSURA FINAL FORM;6YEH FINAL FORM;4MEEM INITIAL FORM;5ISOLATED FORM
5WITH ALEF MAKSURA FINAL FORM;6HAH FINAL FORM;7INITIAL FORM;6YEH FINAL FORM;4YEH FINAL FORM
5ISOLATED FORM;2KAF WITH ALEF FINAL FORM;5ISOLATED FORM;5MAKSURA FINAL FORM;6ISOLATED FORM
4HAH INITIAL FORM;5ISOLATED FORM;4JEEM INITIAL FORM;5ISOLATED FORM;4KHAH INITIAL FORM
5ISOLATED FORM;4LAM FINAL FORM;5INITIAL FORM;5ISOLATED FORM;5MEDIAL FORM;4MEEM FINAL FORM
5INITIAL FORM;5ISOLATED FORM;5MEDIAL FORM;5WITH MEEM FINAL FORM;7INITIAL FORM;6YEH FINAL FORM
4YEH FINAL FORM;5ISOLATED FORM;2KHAH WITH ALEF MAKSURA FINAL FORM;6ISOLATED FORM;4HAH ISOLATED FORM
4JEEM INITIAL FORM;5ISOLATED FORM;4MEEM INITIAL FORM;5ISOLATED FORM;4YEH FINAL FORM;5ISOLATED FORM
2LAM WITH ALEF FINAL FORM;5ISOLATED FORM;5MAKSURA FINAL FORM;6ISOLATED FORM
5WITH HAMZA ABOVE FINAL FORM;8ISOLATED FORM;7BELOW FINAL FORM;8ISOLATED FORM
6MADDA ABOVE FINAL FORM;8ISOLATED FORM;4HAH INITIAL FORM;5ISOLATED FORM
5WITH ALEF MAKSURA FINAL FORM;6MEEM FINAL FORM;7INITIAL FORM;6YEH FINAL FORM;4HEH INITIAL FORM
4JEEM INITIAL FORM;5ISOLATED FORM;5WITH JEEM FINAL FORM;7INITIAL FORM;6MEEM FINAL FORM
7INITIAL FORM;6YEH FINAL FORM;4KHAH INITIAL FORM;5ISOLATED FORM;5WITH MEEM FINAL FORM;7INITIAL FORM
4MEEM FINAL FORM;5INITIAL FORM;5ISOLATED FORM;5MEDIAL FORM;5WITH HAH FINAL FORM;7INITIAL FORM
6YEH FINAL FORM;4YEH FINAL FORM;5ISOLATED FORM;2MEEM WITH ALEF FINAL FORM;5MAKSURA ISOLATED FORM
4HAH INITIAL FORM;5ISOLATED FORM;5WITH JEEM INITIAL FORM;6MEEM INITIAL FORM;6YEH FINAL FORM
4JEEM INITIAL FORM;5ISOLATED FORM;5WITH HAH INITIAL FORM;6KHAH INITIAL FORM;6MEEM INITIAL FORM
6YEH FINAL FORM;4KHAH INITIAL FORM;5ISOLATED FORM;5WITH JEEM INITIAL FORM;6MEEM INITIAL FORM
6YEH FINAL FORM;4MEEM FINAL FORM;5INITIAL FORM;5ISOLATED FORM;5WITH YEH FINAL FORM
4YEH ISOLATED FORM;2MOHAMMAD ISOLATED FORM;2NOON WITH ALEF MAKSURA FINAL FORM;6ISOLATED FORM
4HAH INITIAL FORM;5ISOLATED FORM;5WITH ALEF MAKSURA FINAL FORM;6MEEM INITIAL FORM;6YEH FINAL FORM
4HEH INITIAL FORM;5MEDIAL FORM;4JEEM INITIAL FORM;5ISOLATED FORM;5WITH ALEF MAKSURA FINAL FORM
6HAH FINAL FORM;7INITIAL FORM;6MEEM FINAL FORM;7INITIAL FORM;6YEH FINAL FORM;4KHAH INITIAL FORM
5ISOLATED FORM;4MEEM FINAL FORM;5INITIAL FORM;5ISOLATED FORM;5MEDIAL FORM
5WITH ALEF MAKSURA FINAL FORM;6YEH FINAL FORM;4NOON FINAL FORM;4REH FINAL FORM;4YEH FINAL FORM
5ISOLATED FORM;4ZAIN FINAL FORM;2QAF WITH ALEF MAKSURA FINAL FORM;6ISOLATED FORM;4HAH INITIAL FORM
5ISOLATED FORM;4MEEM INITIAL FORM;5ISOLATED FORM;5WITH HAH FINAL FORM;7INITIAL FORM
6MEEM FINAL FORM;6YEH FINAL FORM;4YEH FINAL FORM;5ISOLATED FORM
2QALA USED AS KORANIC STOP SIGN ISOLATED FORM;2QUDDISA SIRRAH;2RADI ALLAAHU ANH;4ANHAA;4ANHUM
4ANHUMAA;4ANHUNNA;2RAHIMAHU ALLAAH;2RAHIMAHUM ALLAAH;2RASOUL ISOLATED FORM
2REH WITH SUPERSCRIPT ALEF ISOLATED FORM;2SAD WITH ALEF MAKSURA FINAL FORM;6ISOLATED FORM
4HAH INITIAL FORM;5ISOLATED FORM;5WITH HAH FINAL FORM;7INITIAL FORM;6YEH FINAL FORM
4KHAH INITIAL FORM;4MEEM INITIAL FORM;5ISOLATED FORM;5WITH MEEM FINAL FORM;7INITIAL FORM
4REH FINAL FORM;5ISOLATED FORM;4YEH FINAL FORM;5ISOLATED FORM;2SALAAMUHU ALAYNAA
2SALAM ISOLATED FORM;2SALLA ISOLATED FORM;3USED AS KORANIC STOP SIGN ISOLATED FORM
2SALLALLAAHU ALAYHI WA-AALIH;2SALLALLAHOU ALAYHE WASALLAM;2SALLALLAHU ALAYHI WAAALIHEE WA-SALLAM
2SEEN WITH ALEF MAKSURA FINAL FORM;6ISOLATED FORM;4HAH INITIAL FORM;5ISOLATED FORM;5MEDIAL FORM
5WITH JEEM INITIAL FORM;4HEH INITIAL FORM;5MEDIAL FORM;4JEEM INITIAL FORM;5ISOLATED FORM
5MEDIAL FORM;5WITH ALEF MAKSURA FINAL FORM;6HAH INITIAL FORM;4KHAH INITIAL FORM;5ISOLATED FORM
5MEDIAL FORM;5WITH ALEF MAKSURA FINAL FORM;6YEH FINAL FORM;4MEEM INITIAL FORM;5ISOLATED FORM
5MEDIAL FORM;5WITH HAH FINAL FORM;7INITIAL FORM;6JEEM INITIAL FORM;6MEEM FINAL FORM;7INITIAL FORM
4REH FINAL FORM;5ISOLATED FORM;4YEH FINAL FORM;5ISOLATED FORM;2SHADDA WITH DAMMA ISOLATED FORM
5MEDIAL FORM;4DAMMATAN ISOLATED FORM;4FATHA ISOLATED FORM;5MEDIAL FORM;4KASRA ISOLATED FORM
5MEDIAL FORM;4KASRATAN ISOLATED FORM;4SUPERSCRIPT ALEF ISOLATED FORM
2SHEEN WITH ALEF MAKSURA FINAL FORM;6ISOLATED FORM;4HAH FINAL FORM;5INITIAL FORM;5ISOLATED FORM
5MEDIAL FORM;5WITH MEEM FINAL FORM;7INITIAL FORM;6YEH FINAL FORM;4HEH INITIAL FORM;5MEDIAL FORM
4JEEM FINAL FORM;5INITIAL FORM;5ISOLATED FORM;5MEDIAL FORM;5WITH YEH FINAL FORM;4KHAH FINAL FORM
5INITIAL FORM;5ISOLATED FORM;5MEDIAL FORM;4MEEM FINAL FORM;5INITIAL FORM;5ISOLATED FORM
5MEDIAL FORM;5WITH KHAH FINAL FORM;7INITIAL FORM;6MEEM FINAL FORM;7INITIAL FORM;4REH FINAL FORM
5ISOLATED FORM;4YEH FINAL FORM;5ISOLATED FORM;2SUBHAANAHU WA TAAALAA;2TABAARAKA WA-TAAALAA
2TAH WITH ALEF MAKSURA FINAL FORM;6ISOLATED FORM;4HAH INITIAL FORM;5ISOLATED FORM
4MEEM INITIAL FORM;5ISOLATED FORM;5MEDIAL FORM;5WITH HAH FINAL FORM;7INITIAL FORM
6MEEM INITIAL FORM;6YEH FINAL FORM;4YEH FINAL FORM;5ISOLATED FORM;2TEH WITH ALEF MAKSURA FINAL FORM
6ISOLATED FORM;4HAH INITIAL FORM;5ISOLATED FORM;5WITH JEEM FINAL FORM;7INITIAL FORM
6MEEM INITIAL FORM;4HEH INITIAL FORM;5MEDIAL FORM;4JEEM INITIAL FORM;5ISOLATED FORM
5WITH ALEF MAKSURA FINAL FORM;6MEEM INITIAL FORM;6YEH FINAL FORM;4KHAH INITIAL FORM;5ISOLATED FORM
5WITH ALEF MAKSURA FINAL FORM;6MEEM INITIAL FORM;6YEH FINAL FORM;4MEEM FINAL FORM;5INITIAL FORM
5ISOLATED FORM;5MEDIAL FORM;5WITH ALEF MAKSURA FINAL FORM;6HAH INITIAL FORM;6JEEM INITIAL FORM
6KHAH INITIAL FORM;6YEH FINAL FORM;4NOON FINAL FORM;4REH FINAL FORM;4YEH FINAL FORM;5ISOLATED FORM
4ZAIN FINAL FORM;2THAL WITH SUPERSCRIPT ALEF ISOLATED FORM;2THEH WITH ALEF MAKSURA FINAL FORM
6ISOLATED FORM;4HEH MEDIAL FORM;4JEEM ISOLATED FORM;4MEEM FINAL FORM;5INITIAL FORM;5ISOLATED FORM
5MEDIAL FORM;4NOON FINAL FORM;4REH FINAL FORM;4YEH FINAL FORM;5ISOLATED FORM;4ZAIN FINAL FORM
2UIGHUR KIRGHIZ YEH WITH HAMZA ABOVE WITH ALEF MAKSURA FINAL FORM;9ALEF MAKSURA INITIAL FORM
9ALEF MAKSURA ISOLATED FORM;2WASALLAM ISOLATED FORM;2YEH WITH ALEF MAKSURA FINAL FORM
6ISOLATED FORM;4HAH INITIAL FORM;5ISOLATED FORM;5WITH YEH FINAL FORM
4HAMZA ABOVE WITH AE FINAL FORM;8ISOLATED FORM;7ALEF FINAL FORM;8ISOLATED FORM;8MAKSURA FINAL FORM
9ISOLATED FORM;7E FINAL FORM;8INITIAL FORM;8ISOLATED FORM;7HAH INITIAL FORM;8ISOLATED FORM
7HEH INITIAL FORM;8MEDIAL FORM;7JEEM INITIAL FORM;8ISOLATED FORM;7KHAH INITIAL FORM
7MEEM FINAL FORM;8INITIAL FORM;8ISOLATED FORM;8MEDIAL FORM;7NOON FINAL FORM;7OE FINAL FORM
8ISOLATED FORM;7REH FINAL FORM;7U FINAL FORM;8ISOLATED FORM;7WAW FINAL FORM;8ISOLATED FORM
7YEH FINAL FORM;8ISOLATED FORM;7YU FINAL FORM;8ISOLATED FORM;7ZAIN FINAL FORM;4HEH INITIAL FORM
5MEDIAL FORM;4JEEM INITIAL FORM;5ISOLATED FORM;5WITH YEH FINAL FORM;4KHAH INITIAL FORM
5ISOLATED FORM;4MEEM FINAL FORM;5INITIAL FORM;5ISOLATED FORM;5MEDIAL FORM;5WITH MEEM FINAL FORM
7INITIAL FORM;6YEH FINAL FORM;4NOON FINAL FORM;4REH FINAL FORM;4YEH FINAL FORM;5ISOLATED FORM
4ZAIN FINAL FORM;2ZAH WITH MEEM INITIAL FORM;5ISOLATED FORM;5MEDIAL FORM;1MADDA WAAJIB
1MADDAH ABOVE;1MARK NOON GHUNNA;2SIDEWAYS NOON GHUNNA;1MATHEMATICAL AIN;2ALEF;2BEH;2DAD;2DAL
2DOTLESS BEH;3FEH;3NOON;3QAF;2DOUBLE-STRUCK AIN;3BEH;3DAD;3DAL;3FEH;3GHAIN;3HAH;3JEEM;3KHAH;3LAM
3MEEM;3NOON;3QAF;3REH;3SAD;3SEEN;3SHEEN;3TAH;3TEH;3THAL;3THEH;3WAW;3YEH;3ZAH;3ZAIN;2FEH;2GHAIN;2HAH
2INITIAL AIN;3BEH;3DAD;3FEH;3GHAIN;3HAH;3HEH;3JEEM;3KAF;3KHAH;3LAM;3MEEM;3NOON;3QAF;3SAD;3SEEN
3SHEEN;3TEH;3THEH;3YEH;2JEEM;2KAF;2KHAH;2LAM;2LOOPED AIN;3ALEF;3BEH;3DAD;3DAL;3FEH;3GHAIN;3HAH;3HEH
3JEEM;3KHAH;3LAM;3MEEM;3NOON;3QAF;3REH;3SAD;3SEEN;3SHEEN;3TAH;3TEH;3THAL;3THEH;3WAW;3YEH;3ZAH;3ZAIN
2MEEM;2NOON;2OPERATOR HAH WITH DAL;3MEEM WITH HAH WITH TATWEEL;2QAF;2REH;2SAD;2SEEN;2SHEEN
2STRETCHED AIN;3BEH;3DAD;3DOTLESS BEH;4FEH;3FEH;3GHAIN;3HAH;3HEH;3JEEM;3KAF;3KHAH;3MEEM;3NOON;3QAF
3SAD;3SEEN;3SHEEN;3TAH;3TEH;3THEH;3YEH;3ZAH;2TAH;2TAILED AIN;3DAD;3DOTLESS NOON;4QAF;3GHAIN;3HAH
3JEEM;3KHAH;3LAM;3NOON;3QAF;3SAD;3SEEN;3SHEEN;3YEH;2TEH;2THAL;2THEH;2WAW;2YEH;2ZAH;2ZAIN
1NUMBER MARK ABOVE;2SIGN;1OPEN DAMMATAN;2FATHATAN;2KASRATAN;1PERCENT SIGN;1PIASTRE MARK ABOVE
1PLACE OF SAJDAH;1POETIC VERSE SIGN;1POUND MARK ABOVE;1QUESTION MARK;1RAISED ROUND DOT;1RAY
1REVERSED DAMMA;1RIGHT ARROWHEAD ABOVE;4WITH DOT;3BELOW;1ROUNDED HIGH STOP WITH FILLED CENTRE
1SEMICOLON;1SHADDA;2ISOLATED FORM;2MEDIAL FORM;1SIGN ALAYHE ASSALLAM;2MISRA;2RADI ALLAHOU ANHU
2RAHMATULLAH ALAYHE;2SAFHA;2SALLALLAHOU ALAYHE WASSALLAM;2SAMVAT;2SANAH;2SINDHI AMPERSAND
3POSTPOSITION MEN;2TAKHALLUS;1SMALL DAMMA;2FARSI YEH;2FATHA;2HIGH AIN;3DOTLESS HEAD OF KHAH
3FARSI YEH;3FOOTNOTE MARKER;3JEEM;3LAM ALEF;3LIGATURE ALEF WITH LAM WITH YEH
4QAF WITH LAM WITH ALEF MAKSURA;4SAD WITH LAM WITH ALEF MAKSURA;3MADDA;3MEEM INITIAL FORM
4ISOLATED FORM;3NOON;4WITH KASRA;3QAF;3ROUNDED ZERO;3SAD;3SEEN;3SIGN SAFHA;3TAH;3THREE DOTS
3UPRIGHT RECTANGULAR ZERO;3WAW;3WORD AL-JUZ;4AN-NISF;4AR-RUB;4AS-SAJDA;4ATH-THALATHA;4QIF;4SAH
4SAKTA;4WAQFA;3YEH;4BARREE WITH TWO DOTS BELOW;3ZAH;3ZAIN;2KASRA;2LOW MEEM;3NOON WITH KASRA;3SEEN
3WAW;3WORD IMAALA;4ISHMAAM;4TASHEEL;2WAW;2YEH;1START OF RUB EL HIZB;1SUBSCRIPT ALEF;1SUKUN;2BELOW
2ISOLATED FORM;2MEDIAL FORM;1SUPERSCRIPT ALEF MOKHASSAS;1SYMBOL DOT ABOVE;3BELOW
2DOUBLE VERTICAL BAR BELOW;2FOUR DOTS ABOVE;4BELOW;2RING;2SMALL TAH ABOVE;4BELOW;2THREE DOTS ABOVE
4BELOW;4POINTING DOWNWARDS ABOVE;6BELOW;2TWO DOTS ABOVE;4BELOW;4VERTICALLY ABOVE;5BELOW
2WASLA ABOVE;1TAIL FRAGMENT;1TATWEEL;2WITH FATHATAN ABOVE;3OVERSTRUCK HAMZA;4WAW;3TWO DOTS BELOW
1THOUSANDS SEPARATOR;1TONE LOOP ABOVE;3BELOW;2ONE DOT ABOVE;4BELOW;2TWO DOTS ABOVE;4BELOW
1TRIPLE DOT PUNCTUATION MARK;1TURNED DAMMA BELOW;1VERTICAL TAIL;1VOWEL SIGN DOT BELOW
3INVERTED SMALL V ABOVE;3SMALL V ABOVE;1WAVY HAMZA BELOW;1ZWARAKAY;0ARABIC-INDIC CUBE ROOT
1DIGIT EIGHT;2FIVE;2FOUR;2NINE;2ONE;2SEVEN;2SIX;2THREE;2TWO;2ZERO;1FOURTH ROOT;1PER MILLE SIGN
2TEN THOUSAND SIGN;0ARC;0ARIES;0ARMENIAN ABBREVIATION MARK;1APOSTROPHE;1CAPITAL LETTER AYB;3BEN;3CA
3CHA;3CHEH;3CO;3DA;3ECH;3EH;3ET;3FEH;3GHAD;3GIM;3HO;3INI;3JA;3JHEH;3KEH;3KEN;3LIWN;3MEN;3NOW;3OH
3PEH;3PIWR;3RA;3REH;3SEH;3SHA;3TIWN;3TO;3VEW;3VO;3XEH;3YI;3YIWN;3ZA;3ZHE;1COMMA;1DRAM SIGN
1EMPHASIS MARK;1EXCLAMATION MARK;1FULL STOP;1HYPHEN;1MODIFIER LETTER LEFT HALF RING;1QUESTION MARK
1SMALL LETTER AYB;3BEN;3CA;3CHA;3CHEH;3CO;3DA;3ECH;3EH;3ET;3FEH;3GHAD;3GIM;3HO;3INI;3JA;3JHEH;3KEH
3KEN;3LIWN;3MEN;3NOW;3OH;3PEH;3PIWR;3RA;3REH;3SEH;3SHA;3TIWN;3TO;3TURNED AYB;3VEW;3VO;3XEH;3YI
4WITH STROKE;3YIWN;3ZA;3ZHE;2LIGATURE ECH YIWN;3MEN ECH;4INI;4NOW;4XEH;3VEW NOW
0ARROW POINTING DOWNWARDS THEN CURVING LEFTWARDS;5RIGHTWARDS;2RIGHTWARDS THEN CURVING DOWNWARDS
5SOUTH WEST;5UPWARDS;2UPWARDS THEN NORTH WEST;0ARROWHEAD-SHAPED POINTER;0ARTICULATED LORRY
0ARTIST PALETTE;0ASCENDING NODE;0ASCIA SYMBOL;0ASSERTION;0ASTERISK;1OPERATOR;0ASTERISM
0ASTONISHED FACE;0ASTRAEA;0ASTRONOMICAL SYMBOL FOR URANUS;0ASYMPTOTICALLY EQUAL TO;0ATHLETIC SHOE
0ATOM SYMBOL;0AUBERGINE;0AUSTRAL SIGN;0AUTO RICKSHAW;0AUTOMATED TELLER MACHINE;0AUTOMOBILE
0AVESTAN ABBREVIATION MARK;1LETTER A;2AA;2AAN;2AAO;2AE;2AEE;2AN;2AO;2BE;2BHE;2CE;2DE;2DHE;2E;2EE
2FE;2GE;2GGE;2GHE;2HE;2HME;2I;2II;2JE;2KE;2LE;2ME;2NE;2NGE;2NGVE;2NGYE;2NNE;2NYE;2O;2OO;2PE;2RE;2SE
2SHE;2SHYE;2SSHE;2TE;2THE;2TTE;2U;2UU;2VE;2XE;2XVE;2XYE;2YE;2YYE;2ZE;2ZHE;0AVOCADO;0AXE;0BABY
1ANGEL;1BOTTLE;1CHICK;1SYMBOL;0BACK OF ENVELOPE;1WITH LEFTWARDS ARROW ABOVE
0BACK-TILTED SHADOWED WHITE RIGHTWARDS ARROW;0BACKSLANTED SOUTH ARROW WITH HOOKED TAIL
4HORIZONTAL TAIL;0BACKSPACE;0BACON;0BACTRIAN CAMEL;0BADGER;0BADMINTON RACQUET AND SHUTTLECOCK
0BAGEL;0BAGGAGE CLAIM;0BAGUETTE BREAD;0BALINESE ADEG ADEG;1CARIK PAMUNGKAH;2PAREREN;2SIKI
1DIGIT EIGHT;2FIVE;2FOUR;2NINE;2ONE;2SEVEN;2SIX;2THREE;2TWO;2ZERO;1LETTER AIKARA;2AKARA;3TEDUNG
2ARCHAIC JNYA;2ASYURA SASAK;2BA;3KEMBANG;2CA;3LACA;2DA;3MADU;3MURDA ALPAPRANA;4MAHAPRANA;2EF SASAK
2EKARA;2GA;3GORA;2HA;2IKARA;3TEDUNG;2JA;3JERA;2KA;3MAHAPRANA;2KAF SASAK;2KHOT SASAK;2LA;3LENGA
4TEDUNG;2MA;2NA;3RAMBAT;2NGA;2NYA;2OKARA;3TEDUNG;2PA;3KAPAL;2RA;3REPA;4TEDUNG;2SA;3SAGA;3SAPA;2TA
3LATIK;3MURDA MAHAPRANA;3TAWA;2TZIR SASAK;2UKARA;3TEDUNG;2VE SASAK;2WA;2YA;2ZAL SASAK
1MUSICAL SYMBOL COMBINING BENDE;4ENDEP;4GONG;4JEGOGAN;4KEMPLI;5WITH JEGOGAN;4KEMPUL;5WITH JEGOGAN
4TEGEH;3DAENG;3DAING;3DANG;4GEDE;4SURANG;3DENG;3DEUNG;3DING;3DONG;3DUNG;3LEFT-HAND CLOSED PLAK
5PLUK;4OPEN PANG;5PING;5PUNG;3RIGHT-HAND CLOSED TAK;5TUK;4OPEN DAG;5DUG;1PAMADA;2LANTANG;1PAMENENG
1PANTI;2LANTANG;1SIGN BISAH;2CECEK;2REREKAN;2SURANG;2ULU CANDRA;3RICEM;1VOWEL SIGN LA LENGA;5TEDUNG
3PEPET;4TEDUNG;3RA REPA;5TEDUNG;3SUKU;4ILUT;3TALING;4REPA;5TEDUNG;4TEDUNG;3TEDUNG;3ULU;4SARI;1WINDU
0BALL OF YARN;0BALLET SHOES;0BALLOON;0BALLOON-SPOKED ASTERISK;0BALLOT BOLD SCRIPT X;1BOX
2WITH BALLOT;3BOLD CHECK;4SCRIPT X;3CHECK;3LIGHT X;3SCRIPT X;3X;1SCRIPT X;1X;0BAMUM COLON
1COMBINING MARK KOQNDON;3TUKWENTIS;1COMMA;1FULL STOP;1LETTER A;2EE;2FAAMAE;2FEE;2FOM;2FU;2I;2KA
2KEN;2KET;2KEUX;2KI;2KO;2KOGHOM;2KOVUU;2KPA;2KU;2KYEE;2LA;2LEEEE;2LI;2LOQ;2LU;2M;2MA;2MBAA;2MBEN
2MEEEE;2MEN;2MI;2MO;2MU;2NA;2NDAA;2NGA;2NGGA;2NGKWAEN;2NI;2NJAEM;2NJEE;2NJUAE;2NSHA;2NTEE;2NTUU;2NU
2NUAE;2NYI;2O;2PA;2PEE;2PEUX;2PHASE-A FIRI;3GBIEE FON;3GHEUAEGHEUAE;3GHEUAERAE;3KAFA;3KAQ;3KET
3KEUKEUTNDA;3KPOQ;3KUOQ;3LAPAQ;3LET KUT;3LOMMAE;3LU;3LUAEP;3MAEKEUP;3MAEM;3MAEMBGBIEE;3MAEMKPEN
3MAEMVEUX;3MAENYI;3MAESI;3MANSUAE;3MAP PIEET;3MBANYI;3MBAQ;3MEUNJOMNDEUQ;3MGBASA;3MON NGGEUAET
3MOOMEUT;3MOOMPUQ;3MVEUAENGAM;3NAA MFON;3NAQ;3NDA LEERAEWA;3NDAANGGEUAET;3NEN;3NGANGU;3NGGEN
3NGKUE MFON;3NGKUENZEUM;3NIKA;3NJAM;3NKAARAE;3NKINDI;3NSHA;3NSHIEE;3NTAP;4MFAA;4NTAA;3NTOQPEN;3NYET
3NYI;3NYIT MONGKEUAEQ;3NZA MFON;3NZUN MEUT;3PA LEERAEWA;3PAAM;3PAARAE;3PAMSHAE;3PASHAE;3PET
3PON MFON PIPAEMBA;5PIPAEMGBIEE;4PA NJI PIPAEMBA;6PIPAEMGBIEE;3PUP;3ROM;3SEUNYAM;3SHINDA PA NJI
3SHIRAE;3SHOQ NSHUT YUM;3SHUENSHUET;3SHUM;3SISA;3SONJAM;3SOQ;3SOT;3SUU;3TEUAEN;3TEUTEUWEN
3TITA MFON;3TU MAEMBA;3TUAEP;3U YUQ NAE;3UNKNOWN;3VEE;2PHASE-B FEE;3FEUX;3GHEUGHEN;3GHEUGHEUAEM
3KAM;3KEUAEM;3KEUPUQ;3KEUYEUX;3KIEEM;3KIQ;3LAANAE;3LAM NSHUT NYAM;3LET;3LOM NTEUM;3MA;4NJEUAENA
4NJUQA;3MBA MAELEE;3MBAARAE;3MBEURI;3MBIT MBAAKET;3MBUOQ;3MEUQ;3MEUT NGGEET;3MFIYAQ;3MFON TEUAEQ
3MONTIEEN;3NDU NJAA;3NGGAAM;3NGGEU MBU;3NGGUOQ;4LARGE;3NGKINDI MVOP;3NGOM;3NSEN;3NSHUET
3NTIEE SHEUOQ;3NYAEMAE;3NYI NTEUM;3PARUM;3PEESHI;3PIT;3PUNGAAM;3SAKEUAE;3SET TU;3SHET NJAQ
3SHEUAEQTU;3SIEE;3SUE;3TAAM;3TU MAEMGBIEE;4NSIEE;3VEUM;3WUAET;3YAFU LEERAEWA;3YEURAE;2PHASE-C BUNG
3FUE;3GBAYI;3GHAP;3GHARAE;3KAA;3KEN FATIGUE;4LAW;3KET;3KEUKAQ;3KEUM;3KEUSEUX;3KEUSHEUAEP;3KPARAQ
3KUOP NKAARAE;3KUT;3LAM;3LAP;3LIQ;3LU;3MA KEUAERI;4NSIEE;3MAEMBA;3MAESI;3MBAA CABBAGE-TREE;4PICKET
3MBANYI;3MBEEKEET;3MBERAE;3MBEUM;3MBEUX;3MBI;3MBIRIEEN;3MBIT;3MBUAEM;3MBUE;3MGBASAQ;3MIEE;3MUAE
3NANSANAQ;3NAQ;3NDAM;3NDAP;3NDEUAEREE;3NDEUT;3NDIDA;3NDOMBU;3NGAQ;3NGGEN;3NGGU;3NGGUAEN NYAM
3NGGUEET;3NGGUM;3NGGUON;3NGKAQ;3NGKUE MAEMBA;3NGOM;3NJAEM;3NJAM;3NJEEEE;3NJEUX;3NJUEQ;3NSA;3NSEUAEN
3NSHAQ;3NSOM;3NSUN;3NSUOT NGOM;3NTAA;3NTEN;3NTEUNGBA;3NTU MBIT;3NYIR MKPARAQ MEUN;3NZA;3NZEUM;3PEN
3PIN;3PIRIEEN;3RU;3SETFON;3SEUX;3SHIQ;3SHUEQ;3SUAET;3TAASHAE;3TET;3TEUTEUX;3TITA YUE;3TITUAEP
3VEUAEPEN;3VEUX;3WANGKUOQ;3WUP;3YAA;3YEUQ;3YU MUOMAE;3YUM;3YUWOQ;2PHASE-D FAA;3FEUFEUAET;3GHAA
3GHEUAE;3KET;3KEUAETMEUN;3KEUM;3KEUOT MBUAE;3KEUP;3KU;3KUN;3KUOM;3KUQ;3KWAET;3KYEE;3LEEEE;3LET
3LEUAEP;3LEUM;3LIEE;3LOQ;3LUM;3M;3MAENJET;3MALEERI;3MBAA;4SEVEN;3MBUO;3MEEEE;3MEUN;3MEUT;3MFEUAE
3MFEUT;3MFIEE;3MFO;3MFON;3MGBEUN;3MGBIEE;3MGBOFUM;3MONI;3MU;3MVOP;3NDAM;3NDEE;3NDEUX;3NDON;3NGGAAM
3NGGAAMAE;3NGGAP;3NGGEUX;3NGGUOM;3NGGWAEN;3NGKAP;3NGKEUAEQ;3NGKEURI;3NGKIEE;3NGKUN;3NGKYEE;3NI
3NJAP;3NJEUAEM;3NJEUT;3NJI;3NJIEE;3NJUEQ;3NSHEE;3NSHUT;3NSIEEP;3NSIEET;3NSUM;3NTEE;3NTEUM;3NTUU;3NU
3NYAM;3NYET;3NYI;3NYUE;3PAP;3PEE;3PEUTAE;3PIP;3PUQ;3PUUT;3RAEM;3REN MUCH;4OLD;3RII;3SAP;3SAQ
3SEUAEQ;3SHEE;3SHEUAE;3SHEUX;3SHII;3SHOQ;3SHU;3SOT;3SUAE;3SUE;3SUU;3TAE;3TEEEE;3TEUAEN;3TEUN;3TEUT
3TI;3TOQ;3TU;3TUOT;3WAP;3WUAEN;3YAEMMAE;3YEN;3YUOM;3YUOP;3YUWOQ;2PHASE-E A;3FA;3FAQ;3FEE;3FOM
3FU CALL;4I;4REMEDY;3FUE;3FUET;3GBET;3GBEUX;3GHAAMAE;3GHET;3GHEUAE;3GHEUN;3GHEUX;3GHOM;3I;3KET
3KEUAE;3KEUX;3KI;3KO;3KPEUX;3KUET;3KUOP;3KUT;3LAAM;3LAP;3LAQ;3LEUAEM;3LOM;3LOON;3LOOT;3LOQ;3LU;3MA
3MAE;3MAEM;3MAP;3MAQ;3MBEE;3MBEUM;3MEN;3MFEUQ;3MGBA;3MGBEN;3MI;3MIEE;3MON;3MUAE;3MVI;3NA;3NAE
3NDAA MY HOUSE;4SOFTNESS;3NDAP;3NDIAQ;3NDIQ;3NDUN;3NGA;3NGEUREUT;3NGGEEEE;3NGGEUAE;3NGGEUAET
3NGGUAESHAE NYAM;3NGGUP;3NGGURAE;3NGKA;3NGKAAMI;3NGKEUAEM;3NGKEUX;3NGKUM;3NGKUP;3NGOP;3NGOQ;3NGUAE
3NGUAET;3NJAEMLI;3NJEE;4EPOCH;3NJEUX;3NKOM;3NSHIEE;3NSHUE;3NSHUOP;3NTAP;3NTUM;3NYI BETWEEN;4CLEAVER
3NZAQ;3NZUQ;3O;3PA PEOPLE;4PLURAL;3PAA;3PAAM;3PEEM;3PEUT;3PEUX;3PI;3PIEEQ;3PIET;3PO;3POON;3PU;3PUAE
3PUAQ;3PUE;3PUM;3RAE;3RAQ;3REUX;3RIMGBA;3SAA;3SEE;3SET;3SHEUAEQ;3SHIQ;3SHO;3SHOQ;3SOM;3SUAEN;3TAA
3TAAQ;3TAEN NTEUM;3TAM;3TAQ;3TEN;3TEU;3TEUAEQ;3TOO;3TOON;3TOQ;3TUAE;3TUM;3TUMAE;3VEE;3VEUAE;3VOM
3WEUX;3WUE;3WUO;3YAP;3YEUAE;3YEUAET;3YEUM;3YEUX;3YIEE;3YIT;3YOQ COVER;4SWIMMING;3YUAEN;3YUEQ;3YUN
3YUQ;2PHASE-F EE;3FOM;3KA;3KEN;3KET;3KO;3KPA;3KU;3KYEE;3LA;3LI;3LOQ;3M;3MA;3MBAA;3MBEN;3MEEEE;3MO
3NDAA;3NGGA;3NGKWAEN;3NI;3NJAEM;3NJUAE;3NSHA;3NTEE;3NU;3NUAE;3NYI;3PEE;3PEUX;3PUAE;3REE;3REN;3REUX
3RIEE;3RII;3RU;3SAMBA;3SEUX;3SHII;3SHO;3SHU;3SI;3SUU;3TAA;3TAE;3TET;3U;3VUEQ;3WA;3WUE;3YA;3YOQ;2PI
2PUAE;2PUE;2RAE;2REE;2REN;2REUX;2RIEE;2RII;2RU;2SAMBA;2SEUX;2SHEUX;2SHII;2SHO;2SHU;2SI;2SUU;2TAA
2TAE;2TEN;2TET;2TI;2U;2WA;2WUE;2YA;2YOQ;2YUQ;1NJAEMLI;1QUESTION MARK;1SEMICOLON;0BANANA;0BANJO
0BANK;0BANKNOTE WITH DOLLAR SIGN;2EURO SIGN;2POUND SIGN;2YEN SIGN;0BAR CHART;1OF SOAP;0BARBER POLE
0BASEBALL;0BASKET;0BASKETBALL AND HOOP;0BASSA VAH COMBINING HIGH TONE;3HIGH-LOW TONE;3LOW TONE
3LOW-MID TONE;3MID TONE;2FULL STOP;2LETTER A;3BA;3CE;3DHII;3DO;3E;3EE;3ENNI;3FA;3GAH;3GBU;3HWAH;3I
3JO;3KA;3KPAH;3MBE;3O;3OO;3PA;3SE;3TO;3U;3UWU;3VU;3WA;3WADDA;3YEIN;3YIE;3ZO;0BAT
0BATAK CONSONANT SIGN H;3NG;1LETTER A;2BA;2CA;2DA;2GA;2HA;2I;2JA;2KARO BA;2LA;2MA;2MANDAILING HA
3NA;3SA;2MBA;2NA;2NDA;2NGA;2NORTHERN TA;2NYA;2PA;2PAKPAK WA;2RA;2SA;2SIMALUNGUN A;3GA;3HA;3LA;3MA
3PA;3RA;3SA;3WA;3YA;2SOUTHERN TA;2U;2WA;2YA;1PANGOLAT;1PANONGONAN;1SIGN TOMPI;1SYMBOL BINDU JUDUL
3NA METEK;3PANGOLAT;3PINARBORAS;1VOWEL SIGN E;3EE;3I;3KARO I;4O;3O;3PAKPAK E;3U;4FOR SIMALUNGUN SA
0BATH;0BATHTUB;0BATTERY;0BEACH WITH UMBRELLA;0BEAMED ASCENDING MUSICAL NOTES
1DESCENDING MUSICAL NOTES;1EIGHTH NOTES;1SIXTEENTH NOTES;0BEANS;0BEAR FACE;0BEARDED PERSON
0BEATING HEART;0BEAVER;0BECAUSE;0BED;0BEER MUG;0BEETLE;0BEL;0BELL;1PEPPER;1SYMBOL
1WITH CANCELLATION STROKE;0BELLHOP BELL;0BENGALI ABBREVIATION SIGN;1ANJI;1AU LENGTH MARK
1CURRENCY DENOMINATOR SIXTEEN;2NUMERATOR FOUR;3ONE;4LESS THAN THE DENOMINATOR;3THREE;3TWO
1DIGIT EIGHT;2FIVE;2FOUR;2NINE;2ONE;2SEVEN;2SIX;2THREE;2TWO;2ZERO;1GANDA MARK;1ISSHAR;1LETTER A;2AA
2AI;2AU;2BA;2BHA;2CA;2CHA;2DA;2DDA;2DDHA;2DHA;2E;2GA;2GHA;2HA;2I;2II;2JA;2JHA;2KA;2KHA;2KHANDA TA
2LA;2MA;2NA;2NGA;2NNA;2NYA;2O;2PA;2PHA;2RA;3WITH LOWER DIAGONAL;4MIDDLE DIAGONAL;2RHA;2RRA;2SA;2SHA
2SSA;2TA;2THA;2TTA;2TTHA;2U;2UU;2VEDIC ANUSVARA;2VOCALIC L;3LL;3R;3RR;2YA;2YYA;1RUPEE MARK;2SIGN
1SANDHI MARK;1SIGN ANUSVARA;2AVAGRAHA;2CANDRABINDU;2NUKTA;2VIRAMA;2VISARGA;1VOWEL SIGN AA;3AI;3AU
3E;3I;3II;3O;3U;3UU;3VOCALIC L;4LL;4R;4RR;0BENT ARROW POINTING DOWNWARDS THEN NORTH EAST;0BENTO BOX
0BENZENE RING;2WITH CIRCLE;0BET SYMBOL;0BETWEEN;0BEVERAGE BOX;0BHAIKSUKI DANDA;1DIGIT EIGHT;2FIVE
2FOUR;2NINE;2ONE;2SEVEN;2SIX;2THREE;2TWO;2ZERO;1DOUBLE DANDA;1GAP FILLER-1;2FILLER-2
1HUNDREDS UNIT MARK;1LETTER A;2AA;2AI;2AU;2BA;2BHA;2CA;2CHA;2DA;2DDA;2DDHA;2DHA;2E;2GA;2GHA;2HA;2I
2II;2JA;2JHA;2KA;2KHA;2LA;2MA;2NA;2NGA;2NNA;2NYA;2O;2PA;2PHA;2RA;2SA;2SHA;2SSA;2TA;2THA;2TTA;2TTHA
2U;2UU;2VA;2VOCALIC L;3R;3RR;2YA;1NUMBER EIGHT;2EIGHTY;2FIFTY;2FIVE;2FORTY;2FOUR;2NINE;2NINETY;2ONE
2SEVEN;2SEVENTY;2SIX;2SIXTY;2TEN;2THIRTY;2THREE;2TWENTY;2TWO;1SIGN ANUSVARA;2AVAGRAHA;2CANDRABINDU
2VIRAMA;2VISARGA;1VOWEL SIGN AA;3AI;3AU;3E;3I;3II;3O;3U;3UU;3VOCALIC L;4R;4RR;1WORD SEPARATOR
0BICYCLE;0BICYCLIST;0BIG REVERSE SOLIDUS;1SOLIDUS;0BIKINI;0BILLED CAP;0BILLIARDS;0BIOHAZARD SIGN
0BIRD;0BIRTHDAY CAKE;0BISON;0BITCOIN SIGN;0BITING LIP;0BLACK BOWTIE;1CENTRE WHITE STAR
1CHESS BISHOP;3ROTATED NINETY DEGREES;4TWO HUNDRED SEVENTY DEGREES;2EQUIHOPPER
3ROTATED NINETY DEGREES;2KING;3ROTATED NINETY DEGREES;4TWO HUNDRED SEVENTY DEGREES;2KNIGHT
3ROTATED FORTY-FIVE DEGREES;4NINETY DEGREES;4ONE HUNDRED THIRTY-FIVE DEGREES
4THREE HUNDRED FIFTEEN DEGREES;4TWO HUNDRED SEVENTY DEGREES;6TWENTY-FIVE DEGREES;2KNIGHT-BISHOP
2KNIGHT-QUEEN;2KNIGHT-ROOK;2PAWN;3ROTATED NINETY DEGREES;4TWO HUNDRED SEVENTY DEGREES;2QUEEN
3ROTATED NINETY DEGREES;4TWO HUNDRED SEVENTY DEGREES;2ROOK;3ROTATED NINETY DEGREES
4TWO HUNDRED SEVENTY DEGREES;2TURNED BISHOP;3KING;3KNIGHT;3PAWN;3QUEEN;3ROOK;1CIRCLE;2FOR RECORD
2WITH DOWN ARROW;3TWO WHITE DOTS;3WHITE DOT RIGHT;1CLUB SUIT;1CROSS ON SHIELD
1CURVED DOWNWARDS AND LEFTWARDS ARROW;4RIGHTWARDS ARROW;2LEFTWARDS AND DOWNWARDS ARROW
4UPWARDS ARROW;2RIGHTWARDS AND DOWNWARDS ARROW;4UPWARDS ARROW;2UPWARDS AND LEFTWARDS ARROW
4RIGHTWARDS ARROW;1DIAMOND;2CENTRED;2MINUS WHITE X;2ON CROSS;2SUIT;2WITH DOWN ARROW
1DOWN POINTING BACKHAND INDEX;1DOWN-POINTING DOUBLE TRIANGLE;2ISOSCELES RIGHT TRIANGLE
2SMALL TRIANGLE;2TRIANGLE;1DOWNWARDS EQUILATERAL ARROWHEAD;1DRAUGHTS KING;2MAN;1DROPLET;1FLAG
1FLORETTE;1FOLDER;1FOUR POINTED STAR;1HARD SHELL FLOPPY DISK;1HEART;2SUIT;1HEXAGON
1HORIZONTAL ELLIPSE;1HOURGLASS;1LARGE CIRCLE;2SQUARE;1LEFT LANE MERGE;2POINTING BACKHAND INDEX
3INDEX;1LEFT-POINTING DOUBLE TRIANGLE;4WITH VERTICAL BAR;2ISOSCELES RIGHT TRIANGLE;2POINTER
2SMALL TRIANGLE;2TRIANGLE;1LEFTWARDS BULLET;2EQUILATERAL ARROWHEAD;1LOWER LEFT TRIANGLE
2RIGHT TRIANGLE;1LOZENGE;1MEDIUM DIAMOND;2DOWN-POINTING TRIANGLE;4CENTRED;2LEFT-POINTING TRIANGLE
4CENTRED;2LOZENGE;2RIGHT-POINTING TRIANGLE;4CENTRED;2SMALL DIAMOND;3LOZENGE;3SQUARE;2SQUARE
2UP-POINTING TRIANGLE;4CENTRED;1MOON LILITH;1NIB;1OCTAGON;1PARALLELOGRAM;1PENNANT;1PENTAGON
1PUSHPIN;1QUESTION MARK ORNAMENT;1RECTANGLE;1RIGHT POINTING BACKHAND INDEX;3INDEX
1RIGHT-POINTING DOUBLE TRIANGLE;4WITH VERTICAL BAR;2ISOSCELES RIGHT TRIANGLE;2PENTAGON;2POINTER
2SMALL TRIANGLE;2TRIANGLE;3WITH DOUBLE VERTICAL BAR;1RIGHTWARDS ARROW;2ARROWHEAD;2BULLET
2EQUILATERAL ARROWHEAD;1ROSETTE;1SAFETY SCISSORS;1SCISSORS;1SHOGI PIECE;1SKULL AND CROSSBONES
1SLIGHTLY SMALL CIRCLE;3SQUARE;1SMALL DIAMOND;2LOZENGE;2SQUARE;2STAR;1SMILING FACE;1SNOWMAN
1SPADE SUIT;1SQUARE;2BUTTON;2CENTRED;2FOR STOP;1STAR;1SUN WITH RAYS;1TELEPHONE;1TINY DIAMOND
2LOZENGE;2SQUARE;1TOUCHTONE TELEPHONE;1TRUCK;1TWO-WAY LEFT WAY TRAFFIC;1UNIVERSAL RECYCLING SYMBOL
1UP POINTING BACKHAND INDEX;1UP-POINTING DOUBLE TRIANGLE;2ISOSCELES RIGHT TRIANGLE;2SMALL TRIANGLE
2TRIANGLE;1UPPER LEFT TRIANGLE;2RIGHT TRIANGLE;1UPWARDS EQUILATERAL ARROWHEAD;1VERTICAL ELLIPSE
2RECTANGLE;1VERY SMALL DIAMOND;3LOZENGE;3SQUARE;0BLACK-FEATHERED NORTH EAST ARROW;1RIGHTWARDS ARROW
1SOUTH EAST ARROW;0BLACK-LETTER CAPITAL C;2H;2I;2R;2Z;0BLANK SYMBOL;0BLOCK SEXTANT-1;1SEXTANT-12
1SEXTANT-123;1SEXTANT-1234;1SEXTANT-12345;1SEXTANT-12346;1SEXTANT-1235;1SEXTANT-12356;1SEXTANT-1236
1SEXTANT-124;1SEXTANT-1245;1SEXTANT-12456;1SEXTANT-1246;1SEXTANT-125;1SEXTANT-1256;1SEXTANT-126
1SEXTANT-13;1SEXTANT-134;1SEXTANT-1345;1SEXTANT-13456;1SEXTANT-1346;1SEXTANT-1356;1SEXTANT-136
1SEXTANT-14;1SEXTANT-145;1SEXTANT-1456;1SEXTANT-146;1SEXTANT-15;1SEXTANT-156;1SEXTANT-16;1SEXTANT-2
1SEXTANT-23;1SEXTANT-234;1SEXTANT-2345;1SEXTANT-23456;1SEXTANT-2346;1SEXTANT-235;1SEXTANT-2356
1SEXTANT-236;1SEXTANT-24;1SEXTANT-245;1SEXTANT-2456;1SEXTANT-25;1SEXTANT-256;1SEXTANT-26;1SEXTANT-3
1SEXTANT-34;1SEXTANT-345;1SEXTANT-3456;1SEXTANT-346;1SEXTANT-35;1SEXTANT-356;1SEXTANT-36;1SEXTANT-4
1SEXTANT-45;1SEXTANT-456;1SEXTANT-46;1SEXTANT-5;1SEXTANT-56;1SEXTANT-6;0BLOSSOM;0BLOWFISH
0BLUE BOOK;1HEART;0BLUEBERRIES;0BOAR;0BOLD EIGHT SPOKED ASTERISK;1FIVE SPOKED ASTERISK;1GREEK CROSS
1SALTIRE;1SIX SPOKED ASTERISK;1WHITE CIRCLE;2SQUARE;0BOM;0BOMB;0BONE;0BOOK;0BOOKMARK;1TABS;0BOOKS
0BOOMERANG;0BOPOMOFO FINAL LETTER G;3H;3K;3P;3T;1LETTER A;2AH;2AI;2AINN;2AM;2AN;2ANG;2ANN;2AU;2AUNN
2B;2BU;2C;2CH;2D;2E;2EE;2EH;2EI;2EN;2ENG;2ENN;2ER;2F;2G;2GH;2GN;2GU;2GW;2H;2I;2IH;2IM;2INN;2INNN
2IR;2IU;2J;2JI;2K;2KW;2L;2LH;2M;2N;2NG;2NGG;2NN;2O;3WITH DOT ABOVE;2OE;2OM;2ONG;2ONN;2OO;2OU;2P;2Q
2R;2S;2SH;2T;2U;2UNN;2V;2X;2Z;2ZH;2ZI;2ZY;0BOTTLE WITH POPPING CORK;0BOTTOM ARC ANTICLOCKWISE ARROW
1CURLY BRACKET;1HALF BLACK CIRCLE;2INTEGRAL;2LEFT PARENTHESIS;2RIGHT PARENTHESIS;1LEFT CORNER;2CROP
2HALF BRACKET;1PARENTHESIS;1RIGHT CORNER;2CROP;2HALF BRACKET;1SQUARE BRACKET
3OVER TOP SQUARE BRACKET;1TORTOISE SHELL BRACKET;0BOUQUET;1OF FLOWERS;0BOW AND ARROW
0BOWL OF HYGIEIA;1WITH SPOON;0BOWLING;0BOWTIE;1WITH LEFT HALF BLACK;2RIGHT HALF BLACK
0BOX DRAWINGS DOUBLE DOWN AND HORIZONTAL;5LEFT;5RIGHT;3HORIZONTAL;3UP AND HORIZONTAL;5LEFT;5RIGHT
3VERTICAL;4AND HORIZONTAL;5LEFT;5RIGHT;2DOWN DOUBLE AND HORIZONTAL SINGLE;5LEFT SINGLE
5RIGHT SINGLE;3HEAVY AND HORIZONTAL LIGHT;5LEFT LIGHT;6UP LIGHT;5RIGHT LIGHT;6UP LIGHT
5UP HORIZONTAL LIGHT;3LIGHT AND HORIZONTAL HEAVY;5LEFT HEAVY;6UP HEAVY;5RIGHT HEAVY;6UP HEAVY
5UP HORIZONTAL HEAVY;3SINGLE AND HORIZONTAL DOUBLE;5LEFT DOUBLE;5RIGHT DOUBLE
2HEAVY DOUBLE DASH HORIZONTAL;5VERTICAL;3DOWN;4AND HORIZONTAL;5LEFT;5RIGHT;3HORIZONTAL;3LEFT
4AND LIGHT RIGHT;3QUADRUPLE DASH HORIZONTAL;5VERTICAL;3RIGHT;3TRIPLE DASH HORIZONTAL;5VERTICAL;3UP
4AND HORIZONTAL;5LEFT;5LIGHT DOWN;5RIGHT;3VERTICAL;4AND HORIZONTAL;5LEFT;5RIGHT
2LEFT DOWN HEAVY AND RIGHT UP LIGHT;3HEAVY AND RIGHT DOWN LIGHT;6UP LIGHT;6VERTICAL LIGHT
3LIGHT AND RIGHT DOWN HEAVY;6UP HEAVY;6VERTICAL HEAVY;3UP HEAVY AND RIGHT DOWN LIGHT
2LIGHT ARC DOWN AND LEFT;6RIGHT;4UP AND LEFT;6RIGHT;3DIAGONAL CROSS;4DIAMOND
4MIDDLE LEFT TO LOWER CENTRE;9TO MIDDLE RIGHT;7UPPER CENTRE TO MIDDLE RIGHT
9TO MIDDLE RIGHT TO LOWER CENTRE;5RIGHT TO LOWER CENTRE
7UPPER CENTRE TO MIDDLE LEFT TO LOWER CENTRE;4UPPER CENTRE TO MIDDLE LEFT
9AND MIDDLE RIGHT TO LOWER CENTRE;9TO LOWER CENTRE;9TO LOWER CENTRE TO MIDDLE RIGHT;8RIGHT
9AND MIDDLE LEFT TO LOWER CENTRE;9TO LOWER CENTRE;9TO LOWER CENTRE TO MIDDLE LEFT
5LEFT TO LOWER RIGHT;5RIGHT TO LOWER LEFT;3DOUBLE DASH HORIZONTAL;5VERTICAL;3DOWN;4AND HORIZONTAL
5LEFT;5RIGHT;3HORIZONTAL;4WITH VERTICAL STROKE;3LEFT;4AND HEAVY RIGHT;3QUADRUPLE DASH HORIZONTAL
5VERTICAL;3RIGHT;3TRIPLE DASH HORIZONTAL;5VERTICAL;3UP;4AND HEAVY DOWN;5HORIZONTAL;5LEFT;5RIGHT
3VERTICAL;4AND HORIZONTAL;5LEFT;5RIGHT;2RIGHT DOWN HEAVY AND LEFT UP LIGHT
3HEAVY AND LEFT DOWN LIGHT;6UP LIGHT;6VERTICAL LIGHT;3LIGHT AND LEFT DOWN HEAVY;6UP HEAVY
6VERTICAL HEAVY;3UP HEAVY AND LEFT DOWN LIGHT;2UP DOUBLE AND HORIZONTAL SINGLE;5LEFT SINGLE
5RIGHT SINGLE;3HEAVY AND DOWN HORIZONTAL LIGHT;5HORIZONTAL LIGHT;5LEFT DOWN LIGHT;6LIGHT
5RIGHT DOWN LIGHT;6LIGHT;3LIGHT AND DOWN HORIZONTAL HEAVY;5HORIZONTAL HEAVY;5LEFT DOWN HEAVY;6HEAVY
5RIGHT DOWN HEAVY;6HEAVY;3SINGLE AND HORIZONTAL DOUBLE;5LEFT DOUBLE;5RIGHT DOUBLE
2VERTICAL DOUBLE AND HORIZONTAL SINGLE;5LEFT SINGLE;5RIGHT SINGLE;3HEAVY AND HORIZONTAL LIGHT
5LEFT LIGHT;5RIGHT LIGHT;3LIGHT AND HORIZONTAL HEAVY;5LEFT HEAVY;5RIGHT HEAVY
3SINGLE AND HORIZONTAL DOUBLE;5LEFT DOUBLE;5RIGHT DOUBLE;0BOXING GLOVE;0BOY;0BOYS SYMBOL;0BPH
0BRAHMI DANDA;1DIGIT EIGHT;2FIVE;2FOUR;2NINE;2ONE;2SEVEN;2SIX;2THREE;2TWO;2ZERO;1DOUBLE DANDA
1LETTER A;2AA;2AI;2AU;2BA;2BHA;2CA;2CHA;2DA;2DDA;2DDHA;2DHA;2E;2GA;2GHA;2HA;2I;2II;2JA;2JHA;2KA
2KHA;2LA;2LLA;2MA;2NA;2NGA;2NNA;2NYA;2O;2OLD TAMIL LLA;4LLLA;4NNNA;4RRA;4SHORT E;5O;2PA;2PHA;2RA
2SA;2SHA;2SSA;2TA;2THA;2TTA;2TTHA;2U;2UU;2VA;2VOCALIC L;3LL;3R;3RR;2YA;1NUMBER EIGHT;2EIGHTY;2FIFTY
2FIVE;2FORTY;2FOUR;2JOINER;2NINE;2NINETY;2ONE;3HUNDRED;3THOUSAND;2SEVEN;2SEVENTY;2SIX;2SIXTY;2TEN
2THIRTY;2THREE;2TWENTY;2TWO;1PUNCTUATION CRESCENT BAR;2DOT;2DOUBLE DOT;2LINE;2LOTUS;1SIGN ANUSVARA
2CANDRABINDU;2JIHVAMULIYA;2OLD TAMIL VIRAMA;2UPADHMANIYA;2VISARGA;1VIRAMA;1VOWEL SIGN AA;3AI;3AU
3BHATTIPROLU AA;3E;3I;3II;3O;3OLD TAMIL SHORT E;6O;3U;3UU;3VOCALIC L;4LL;4R;4RR
0BRAILLE PATTERN BLANK;2DOTS-1;2DOTS-12;2DOTS-123;2DOTS-1234;2DOTS-12345;2DOTS-123456;2DOTS-1234567
2DOTS-12345678;2DOTS-1234568;2DOTS-123457;2DOTS-1234578;2DOTS-123458;2DOTS-12346;2DOTS-123467
2DOTS-1234678;2DOTS-123468;2DOTS-12347;2DOTS-123478;2DOTS-12348;2DOTS-1235;2DOTS-12356;2DOTS-123567
2DOTS-1235678;2DOTS-123568;2DOTS-12357;2DOTS-123578;2DOTS-12358;2DOTS-1236;2DOTS-12367;2DOTS-123678
2DOTS-12368;2DOTS-1237;2DOTS-12378;2DOTS-1238;2DOTS-124;2DOTS-1245;2DOTS-12456;2DOTS-124567
2DOTS-1245678;2DOTS-124568;2DOTS-12457;2DOTS-124578;2DOTS-12458;2DOTS-1246;2DOTS-12467;2DOTS-124678
2DOTS-12468;2DOTS-1247;2DOTS-12478;2DOTS-1248;2DOTS-125;2DOTS-1256;2DOTS-12567;2DOTS-125678
2DOTS-12568;2DOTS-1257;2DOTS-12578;2DOTS-1258;2DOTS-126;2DOTS-1267;2DOTS-12678;2DOTS-1268;2DOTS-127
2DOTS-1278;2DOTS-128;2DOTS-13;2DOTS-134;2DOTS-1345;2DOTS-13456;2DOTS-134567;2DOTS-1345678
2DOTS-134568;2DOTS-13457;2DOTS-134578;2DOTS-13458;2DOTS-1346;2DOTS-13467;2DOTS-134678;2DOTS-13468
2DOTS-1347;2DOTS-13478;2DOTS-1348;2DOTS-135;2DOTS-1356;2DOTS-13567;2DOTS-135678;2DOTS-13568
2DOTS-1357;2DOTS-13578;2DOTS-1358;2DOTS-136;2DOTS-1367;2DOTS-13678;2DOTS-1368;2DOTS-137;2DOTS-1378
2DOTS-138;2DOTS-14;2DOTS-145;2DOTS-1456;2DOTS-14567;2DOTS-145678;2DOTS-14568;2DOTS-1457;2DOTS-14578
2DOTS-1458;2DOTS-146;2DOTS-1467;2DOTS-14678;2DOTS-1468;2DOTS-147;2DOTS-1478;2DOTS-148;2DOTS-15
2DOTS-156;2DOTS-1567;2DOTS-15678;2DOTS-1568;2DOTS-157;2DOTS-1578;2DOTS-158;2DOTS-16;2DOTS-167
2DOTS-1678;2DOTS-168;2DOTS-17;2DOTS-178;2DOTS-18;2DOTS-2;2DOTS-23;2DOTS-234;2DOTS-2345;2DOTS-23456
2DOTS-234567;2DOTS-2345678;2DOTS-234568;2DOTS-23457;2DOTS-234578;2DOTS-23458;2DOTS-2346;2DOTS-23467
2DOTS-234678;2DOTS-23468;2DOTS-2347;2DOTS-23478;2DOTS-2348;2DOTS-235;2DOTS-2356;2DOTS-23567
2DOTS-235678;2DOTS-23568;2DOTS-2357;2DOTS-23578;2DOTS-2358;2DOTS-236;2DOTS-2367;2DOTS-23678
2DOTS-2368;2DOTS-237;2DOTS-2378;2DOTS-238;2DOTS-24;2DOTS-245;2DOTS-2456;2DOTS-24567;2DOTS-245678
2DOTS-24568;2DOTS-2457;2DOTS-24578;2DOTS-2458;2DOTS-246;2DOTS-2467;2DOTS-24678;2DOTS-2468;2DOTS-247
2DOTS-2478;2DOTS-248;2DOTS-25;2DOTS-256;2DOTS-2567;2DOTS-25678;2DOTS-2568;2DOTS-257;2DOTS-2578
2DOTS-258;2DOTS-26;2DOTS-267;2DOTS-2678;2DOTS-268;2DOTS-27;2DOTS-278;2DOTS-28;2DOTS-3;2DOTS-34
2DOTS-345;2DOTS-3456;2DOTS-34567;2DOTS-345678;2DOTS-34568;2DOTS-3457;2DOTS-34578;2DOTS-3458
2DOTS-346;2DOTS-3467;2DOTS-34678;2DOTS-3468;2DOTS-347;2DOTS-3478;2DOTS-348;2DOTS-35;2DOTS-356
2DOTS-3567;2DOTS-35678;2DOTS-3568;2DOTS-357;2DOTS-3578;2DOTS-358;2DOTS-36;2DOTS-367;2DOTS-3678
2DOTS-368;2DOTS-37;2DOTS-378;2DOTS-38;2DOTS-4;2DOTS-45;2DOTS-456;2DOTS-4567;2DOTS-45678;2DOTS-4568
2DOTS-457;2DOTS-4578;2DOTS-458;2DOTS-46;2DOTS-467;2DOTS-4678;2DOTS-468;2DOTS-47;2DOTS-478;2DOTS-48
2DOTS-5;2DOTS-56;2DOTS-567;2DOTS-5678;2DOTS-568;2DOTS-57;2DOTS-578;2DOTS-58;2DOTS-6;2DOTS-67
2DOTS-678;2DOTS-68;2DOTS-7;2DOTS-78;2DOTS-8;0BRAIN;0BREAD;0BREAK PERMITTED HERE;0BREAST-FEEDING
0BREVE;0BRICK;0BRIDE WITH VEIL;0BRIDGE AT NIGHT;0BRIEFCASE;0BRIEFS;0BROCCOLI;0BROKEN BAR
1CIRCLE WITH NORTHWEST ARROW;1HEART;0BROOM;0BROWN HEART;0BS;0BUBBLE TEA;0BUBBLES;0BUCKET;0BUG
0BUGINESE END OF SECTION;1LETTER A;2BA;2CA;2DA;2GA;2HA;2JA;2KA;2LA;2MA;2MPA;2NA;2NGA;2NGKA;2NRA
2NYA;2NYCA;2PA;2RA;2SA;2TA;2VA;2YA;1PALLAWA;1VOWEL SIGN AE;3E;3I;3O;3U;0BUHID LETTER A;2BA;2DA;2GA
2HA;2I;2KA;2LA;2MA;2NA;2NGA;2PA;2RA;2SA;2TA;2U;2WA;2YA;1VOWEL SIGN I;3U;0BUILDING CONSTRUCTION
0BULLET;1OPERATOR;0BULLHORN;1WITH SOUND WAVES;0BULLSEYE;0BURRITO;0BUS;1STOP;0BUST IN SILHOUETTE
0BUSTS IN SILHOUETTE;0BUTTER;0BUTTERFLY;0BYTE ORDER MARK;0BYZANTINE MUSICAL SYMBOL AGOGI ARGI
4ARGOTERI;4GORGI;4GORGOTERI;4MESI;4METRIA;4POLI ARGI;5GORGI;3ANATRICHISMA;3ANTIKENOKYLISMA
3ANTIKENOMA;3APESO EKFONITIKON;4EXO NEO;3APLI;3APODERMA ARCHAION;4NEO;3APOSTROFOI SYNDESMOS NEO
4TELOUS ICHIMATOS;3APOSTROFOS;4DIPLI;4NEO;3APOTHEMA;3ARGON;3ARGOSYNTHETON;3ARKTIKO DI;4GA;4KE;4NI
4PA;4VOU;4ZO;3CHAMILI;3CHAMILON;3CHOREVMA ARCHAION;4NEO;3CHROA KLITON;4SPATHI;4ZYGOS;3DASEIA
3DIARGON;3DIASTOLI APLI MEGALI;5MIKRI;4DIPLI;4THESEOS;3DIESIS APLI DYO DODEKATA
4DIGRAMMOS EX DODEKATA;4MONOGRAMMOS TESSERA DODEKATA;4TETARTIMORION;4TRIGRAMMOS OKTO DODEKATA
4TRITIMORION;3DIFTOGGOS OU;3DIGORGON;4PARESTIGMENON ARISTERA ANO;6KATO;5DEXIA;3DIGRAMMA GG;3DIPLI
4ARCHAION;3DYO;3EKSTREPTON;3ELAFRON;3ENARXIS KAI FTHORA VOU;3ENDOFONON;3EPEGERMA
3ETERON ARGOSYNTHETON;4PARAKALESMA;3EXO EKFONITIKON;3FANEROSIS DIFONIAS;4MONOFONIAS;4TETRAFONIAS
3FHTORA SKLIRON CHROMA VASIS;3FTHORA ARCHAION;5DEYTEROU ICHOU;4DIATONIKI DI;5KE;5NANA;5NI ANO;6KATO
5PA;5ZO;4ENARMONIOS ANTIFONIA;4I YFESIS TETARTIMORION;4MALAKON CHROMA DIFONIAS;6MONOFONIAS
4NAOS ICHOS;4NENANO;4SKLIRON CHROMA SYNAFI;6VASIS;5DIATONON DI;3GENIKI DIESIS;4YFESIS
3GORGON ARCHAION;4NEO ANO;5KATO;4PARESTIGMENON ARISTERA;5DEXIA;3GORGOSYNTHETON;3GORTHMIKON N APLOUN
5DIPLOUN;3GRONTHISMATA;3ICHADIN;3IMIDIARGON;3IMIFONON;3IMIFTHORA;3IMIFTHORON
3ISAKIA TELOUS ICHIMATOS;3ISON ARCHAION;4NEO;3KATAVA TROMIKON;3KATAVASMA;3KATHISTI
3KENTIMA ARCHAION;4NEO ANO;5KATO;5MESO;3KENTIMATA;4ARCHAION;4NEO ANO;5KATO;5MESO;3KLASMA;4ANO;4KATO
3KONTEVMA;4ALLO;3KORONIS;3KOUFISMA;3KRATIMA ALLO;4ARCHAION;4NEO;3KRATIMATA;3KRATIMOKOUFISMA
3KRATIMOYPORROON;3KREMASTI;3KYLISMA;3LEIMMA DYO CHRONON;4ENOS CHRONOU;4IMISEOS CHRONOU
4TESSARON CHRONON;4TRION CHRONON;3LEMOI;3LYGISMA;3MARTYRIA ALLI DEYTEROS ICHOS;5PROTOS ICHOS
4DEYTEROS ICHOS;4LEGETOS ICHOS;4PLAGIOS ICHOS;5TETARTOS ICHOS;4PROTOS ICHOS;4PROTOVARYS ICHOS
4TETARTOS ICHOS;5LEGETOS ICHOS;4TRIFONIAS;4TRITOS ICHOS;4VARYS ICHOS;3MIKRON ISON;3NANA
3OLIGON ARCHAION;4NEO;3OMALON;3OXEIA DIPLI;4EKFONITIKON;4NEO;3OXEIAI ARCHAION;3OYRANISMA ARCHAION
4NEO;3PARAKALESMA ARCHAION;4NEO;3PARAKLITIKI;4ARCHAION;4NEO;3PARICHON;3PELASTON;4NEO;3PERISPOMENI
3PETASMA;3PETASTI;3PETASTOKOUFISMA;3PIASMA ARCHAION;4NEO;3PSIFISTOLYGISMA;3PSIFISTON;4NEO
3PSIFISTOPARAKALESMA;3PSIFISTOSYNAGMA;3PSILI;3PSILON;3RAPISMA;3REVMA;3SAXIMATA;3SEISMA;4NEO
3SIMANSIS ARSEOS;5DISIMOU;5TETRASIMOU;5TRISIMOU;4THESEOS;5DISIMOU;5TETRASIMOU;5TRISIMOU;3STAVROS
4APODEXIA;3STIGMA;3STRAGGISMATA;3SYNAGMA ARCHAION;4META STAVROU;4NEO;3SYNEVMA;3SYRMA;3SYRMATIKI
3TELEIA;3TESSERA;3TETRAPLI;3THEMA;4APLOUN;3THEMATISMOS ESO;4EXO;3THES KAI APOTHES;3THITA;3TINAGMA
3TRIA;3TRIGORGON;3TRIPLI;3TROMIKOLYGISMA;3TROMIKON ALLO;4ARCHAION;4NEO;3TROMIKOPARAKALESMA
3TROMIKOPSIFISTON;3TROMIKOSYNAGMA;3VAREIA DIPLI;4EKFONITIKON;4NEO;3VAREIAI ARCHAION;3VATHY
3XIRON KLASMA;3YFEN ANO;4KATO;3YFESIS APLI DYO DODEKATA;4DIGRAMMOS EX DODEKATA
4MONOGRAMMOS TESSERA DODEKATA;4TRIGRAMMOS OKTO DODEKATA;4TRITIMORION;3YPOKRISIS;4DIPLI;3YPORROI
3YPSILI;0CACTUS;0CADA UNA;0CADUCEUS;0CALENDAR;0CALL ME HAND;0CAMERA;1WITH FLASH;0CAMPING;0CAN
0CANADIAN SYLLABICS A;2AA;2AAI;2AAY;2AI;2AIVILIK B;2AN;2ATHAPASCAN M;3S;2AY;2BEAVER DENE L;4R
2BIBLE-CREE Y;2BLACKFOOT A;3E;3I;3KA;3KE;3KI;3KO;3NA;3NE;3NI;3NO;3O;3S;3W;3WA;3WE;3WI;3WO;2C;2CA
2CAA;2CAAI;2CARRIER CHA;3CHE;3CHEE;3CHI;3CHO;3CHU;3DEE;3DENE GEE;3DENTAL S;3DI;3DLA;3DLE;3DLEE;3DLI
3DLO;3DLU;3DZA;3DZE;3DZEE;3DZI;3DZO;3DZU;3EE;3GA;3GAA;3GE;3GEE;3GHA;3GHE;3GHEE;3GHI;3GHO;3GHU;3GI
3GO;3GU;3GWA;3GWU;3H;3HEE;3HI;3HWA;3HWE;3HWEE;3HWI;3HWO;3HWU;3I;3INITIAL Z;3JA;3JE;3JEE;3JI;3JJA
3JJE;3JJEE;3JJI;3JJO;3JJU;3JO;3JU;3JWA;3KHA;3KHE;3KHEE;3KHI;3KHO;3KHU;3KK;3KKA;3KKE;3KKEE;3KKI;3KKO
3KKU;3LA;3LE;3LEE;3LHA;3LHE;3LHEE;3LHI;3LHO;3LHU;3LI;3LO;3LU;3MA;3ME;3MEE;3MI;3MO;3MU;3NA;3NE;3NEE
3NG;3NI;3NO;3NU;3P;3PA;3PE;3PEE;3PI;3PO;3PU;3RA;3RE;3REE;3RI;3RO;3RU;3SA;3SE;3SEE;3SH;3SHA;3SHE
3SHEE;3SHI;3SHO;3SHU;3SI;3SO;3SU;3THA;3THE;3THEE;3THI;3THO;3THU;3TLA;3TLE;3TLEE;3TLHA;3TLHE;3TLHEE
3TLHI;3TLHO;3TLHU;3TLI;3TLO;3TLU;3TSA;3TSE;3TSEE;3TSI;3TSO;3TSU;3TTA;3TTE;3TTEE;3TTI;3TTO;3TTSA
3TTSE;3TTSEE;3TTSI;3TTSO;3TTSU;3TTU;3WA;3WE;3WEE;3WI;3WO;3WU;3YA;3YE;3YEE;3YI;3YO;3YU;3Z;3ZA;3ZE
3ZEE;3ZI;3ZO;3ZU;2CE;2CHI SIGN;2CI;2CII;2CO;2COO;2CWA;2CWAA;2CWE;2CWI;2CWII;2CWO;2CWOO;2E
2EASTERN W;2EN;2F;2FA;2FAA;2FAAI;2FE;2FI;2FII;2FINAL ACUTE;3BOTTOM HALF RING;3DOUBLE ACUTE
4SHORT VERTICAL STROKES;3DOWN TACK;3GRAVE;3MIDDLE DOT;3PLUS;3RAISED DOT;3RIGHT HALF RING;3RING
3SHORT HORIZONTAL STROKE;3SMALL RING;3TOP HALF RING;2FO;2FOO;2FULL STOP;2FWAA;2GLOTTAL STOP;2HK
2HYPHEN;2I;2II;2IN;2K;2KA;2KAA;2KAAI;2KAY;2KE;2KI;2KII;2KO;2KOO;2KW;2KWA;2KWAA;2KWAY;2KWE;2KWI
2KWII;2KWO;2KWOO;2L;2LA;2LAA;2LAAI;2LAY;2LE;2LH;2LHA;2LHAA;2LHI;2LHII;2LHO;2LHOO;2LI;2LII;2LO;2LOO
2LWA;2LWAA;2LWE;2LWI;2LWII;2LWO;2LWOO;2M;2MA;2MAA;2MAAI;2MAY;2ME;2MEDIAL L;3R;2MH;2MI;2MII;2MO;2MOO
2MOOSE-CREE SK;2MWA;2MWAA;2MWE;2MWI;2MWII;2MWO;2MWOO;2N;2N-CREE THE;3THI;3THII;2NA;2NAA;2NAAI
2NASKAPI CWAA;3KWAA;3MWAA;3NWAA;3S-W;3SCWA;3SKW;3SKWA;3SPWA;3STWA;3SWAA;3TWAA;3WAA;3WOO;3YWAA
2NATTILIK HA;3HAA;3HI;3HII;3HO;3HOO;3SHRA;3SHRAA;3SHRI;3SHRII;3SHRO;3SHROO;2NAY;2NE;2NG;2NGA;2NGAA
2NGAAI;2NGAI;2NGI;2NGII;2NGO;2NGOO;2NH;2NI;2NII;2NNG;2NNGA;2NNGAA;2NNGI;2NNGII;2NNGO;2NNGOO;2NO
2NOO;2NOY;2NUNAVIK H;3HA;3HAA;3HE;3HI;3HII;3HO;3HOO;2NUNAVUT H;2NWA;2NWAA;2NWE;2NWI;2NWII;2NWO
2NWOO;2O;2OJIBWAY C;3K;3M;3N;3NWI;3NWII;3NWO;3NWOO;3P;3S;3SH;3T;2ON;2OO;2OY;2P;2PA;2PAA;2PAAI;2PAY
2PE;2PI;2PII;2PO;2POO;2POY;2PWA;2PWAA;2PWE;2PWI;2PWII;2PWO;2PWOO;2PWOY;2Q;2QA;2QAA;2QAAI;2QAI;2QI
2QII;2QO;2QOO;2R;2R-CREE RE;3RWE;2RA;2RAA;2RAAI;2RAY;2RE;2RI;2RII;2RO;2ROO;2RWA;2RWAA;2RWEE;2RWI
2RWII;2RWO;2RWOO;2S;2SA;2SAA;2SAAI;2SAY;2SAYISI HA;3HE;3HI;3HO;3HOO;3JI;3JU;3JUU;3M;3SHA;3SHE;3SHI
3SHO;3SHOO;3SHWE;3TH;3YI;2SE;2SH;2SHA;2SHAA;2SHAY;2SHE;2SHI;2SHII;2SHO;2SHOO;2SHOY;2SHWA;2SHWAA
2SHWE;2SHWI;2SHWII;2SHWO;2SHWOO;2SHWOY;2SI;2SII;2SO;2SOO;2SOUTH-SLAVEY KAH;3KEH;3KIH;3KOH;2SOY;2SPA
2SPE;2SPI;2SPO;2SW;2SWA;2SWAA;2SWE;2SWI;2SWII;2SWO;2SWOO;2T;2TA;2TAA;2TAAI;2TAY;2TE;2TH;2TH-CREE TH
3THA;3THAA;3THE;3THI;3THII;3THO;3THOO;2THA;2THAA;2THE;2THI;2THII;2THO;2THOO;2THWA;2THWAA;2THWE;2TI
2TII;2TLHA;2TLHE;2TLHI;2TLHO;2TLHOO;2TLHWE;2TO;2TOO;2TTA;2TTE;2TTH;2TTHA;2TTHAA;2TTHE;2TTHI;2TTHO
2TTHOO;2TTHWE;2TTI;2TTO;2TWA;2TWAA;2TWE;2TWI;2TWII;2TWO;2TWOO;2TYA;2TYE;2TYI;2TYO;2WA;2WAA;2WAY;2WE
2WEST-CREE CWA;3CWAA;3CWE;3CWI;3CWII;3CWO;3CWOO;3FWAA;3KWA;3KWAA;3KWE;3KWI;3KWII;3KWO;3KWOO;3L;3LA
3LAA;3LE;3LO;3LOO;3LWA;3LWAA;3LWE;3LWI;3LWII;3LWO;3LWOO;3M;3MWA;3MWAA;3MWE;3MWI;3MWII;3MWO;3MWOO
3NWA;3NWAA;3NWE;3P;3PWA;3PWAA;3PWE;3PWI;3PWII;3PWO;3PWOO;3R;3RA;3RE;3RI;3RO;3RWAA;3SHWA;3SHWAA
3SHWE;3SHWI;3SHWII;3SHWO;3SHWOO;3SWA;3SWAA;3SWE;3SWI;3SWII;3SWO;3SWOO;3THWAA;3TWA;3TWAA;3TWE;3TWI
3TWII;3TWO;3TWOO;3WA;3WAA;3WE;3WI;3WII;3WO;3WOO;3Y;3YWA;3YWAA;3YWE;3YWI;3YWII;3YWO;3YWOO;2WESTERN W
2WI;2WII;2WO;2WOO;2WOODS-CREE FINAL TH;3TH;3THA;3THE;3THI;3THO;3THWA;3THWAA;3THWEE;3THWI;3THWII
3THWO;3THWOO;2Y;2Y-CREE COO;3KOO;3LOO;3MOO;3NOO;3OO;3POO;3PWAA;3SOO;3TOO;3W;3YOO;2YA;2YAA;2YAAI
2YAY;2YE;2YI;2YII;2YO;2YOO;2YOY;2YWA;2YWAA;2YWE;2YWI;2YWII;2YWO;2YWOO;0CANCEL;1CHARACTER;1TAG
0CANCELLATION X;0CANCER;0CANDLE;0CANDY;0CANNED FOOD;0CANOE;0CAPITULUM;0CAPRICORN;0CAR SLIDING
0CARD FILE BOX;1INDEX;2DIVIDERS;0CARE OF;0CARET;1INSERTION POINT;0CARIAN LETTER A;2A2;2B;2C-18
2C-39;2D;2D2;2E;2E2;2G;2G2;2I;2II;2K;2K2;2L;2LD;2LD2;2M;2MB;2MB2;2MB3;2MB4;2N;2ND;2NG;2NN;2O;2P;2P2
2Q;2R;2RR;2S;2SH;2SH2;2SS;2ST;2ST2;2T;2TT;2TT2;2U;2UU;2UUU;2UUU2;2UUU3;2UUUU;2X;0CARON
0CAROUSEL HORSE;0CARP STREAMER;0CARPENTRY SAW;0CARRIAGE RETURN;0CARROT;0CASTLE;0CAT;1FACE
2WITH TEARS OF JOY;3WRY SMILE;0CAUCASIAN ALBANIAN CITATION MARK;2LETTER ALT;3AOR;3BET;3CAR;3CAYN
3CHA;3CHAT;3CHI;3CHOY;3CYAW;3CYAY;3DAT;3DYAN;3DZAY;3DZYAY;3EB;3EYN;3FAM;3GHEYS;3GIM;3HEYT;3INYA
3IRB;3IWN;3JAYN;3JHOX;3KAR;3KIW;3LAN;3LYIT;3MAQ;3NOWC;3ON;3PEN;3PIWR;3QAR;3QAY;3RAT;3SEYK;3SHA
3SHAK;3SHOY;3TAS;3TIWR;3TYAY;3VEYZ;3XEYN;3YAYD;3YOWD;3ZARL;3ZHA;3ZHIL;0CAUTION SIGN;0CCH;0CEDI SIGN
0CEDILLA;0CELTIC CROSS;0CENT SIGN;0CENTRE LINE SYMBOL;0CENTRELINE LOW LINE;1OVERLINE;0CERES;0CGJ
0CHAINS;0CHAIR;0CHAKMA AU MARK;1DANDA;1DIGIT EIGHT;2FIVE;2FOUR;2NINE;2ONE;2SEVEN;2SIX;2THREE;2TWO
2ZERO;1DOUBLE DANDA;1LETTER AA;2BAA;2BHAA;2CAA;2CHAA;2DAA;2DDAA;2DDHAA;2DHAA;2E;2GAA;2GHAA;2HAA;2I
2JAA;2JHAA;2KAA;2KHAA;2LAA;2LHAA;2MAA;2NAA;2NGAA;2NNAA;2NYAA;2PAA;2PHAA;2RAA;2SAA;2TAA;2THAA;2TTAA
2TTHAA;2U;2VAA;2WAA;2YAA;2YYAA;1MAAYYAA;1O MARK;1QUESTION MARK;1SECTION MARK;1SIGN ANUSVARA
2CANDRABINDU;2VISARGA;1VIRAMA;1VOWEL SIGN A;3AA;3AI;3AU;3E;3EI;3I;3II;3O;3OI;3U;3UU
0CHAM CONSONANT SIGN FINAL H;4M;4NG;3LA;3RA;3WA;3YA;1DIGIT EIGHT;2FIVE;2FOUR;2NINE;2ONE;2SEVEN;2SIX
2THREE;2TWO;2ZERO;1LETTER A;2AI;2BA;2BBA;2BHA;2CHA;2CHHA;2DA;2DDA;2DHA;2E;2FINAL CH;3G;3K;3L;3N;3NG
3P;3R;3SS;3T;3Y;2GA;2GHA;2HA;2I;2JA;2JHA;2KA;2KHA;2LA;2MA;2MUE;2NA;2NGA;2NGUE;2NHA;2NHJA;2NHUE;2NUE
2O;2PA;2PHA;2PPA;2RA;2SA;2SSA;2TA;2THA;2U;2VA;2YA;1PUNCTUATION DANDA;2DOUBLE DANDA;2SPIRAL
2TRIPLE DANDA;1VOWEL SIGN AA;3AI;3AU;3EI;3I;3II;3O;3OE;3U;3UE;0CHARACTER TABULATION;2SET
2WITH JUSTIFICATION;1TIE;0CHART WITH DOWNWARDS TREND;2UPWARDS TREND;4AND YEN SIGN;0CHECK MARK
0CHECKER BOARD;2FILL;0CHEERING MEGAPHONE;0CHEESE WEDGE;0CHEQUERED FLAG;0CHEROKEE LETTER A;2DA;2DE
2DI;2DLA;2DO;2DU;2DV;2E;2GA;2GE;2GI;2GO;2GU;2GV;2HA;2HE;2HI;2HNA;2HO;2HU;2HV;2I;2KA;2LA;2LE;2LI;2LO
2LU;2LV;2MA;2ME;2MI;2MO;2MU;2MV;2NA;2NAH;2NE;2NI;2NO;2NU;2NV;2O;2QUA;2QUE;2QUI;2QUO;2QUU;2QUV;2S
2SA;2SE;2SI;2SO;2SU;2SV;2TA;2TE;2TI;2TLA;2TLE;2TLI;2TLO;2TLU;2TLV;2TSA;2TSE;2TSI;2TSO;2TSU;2TSV;2U
2V;2WA;2WE;2WI;2WO;2WU;2WV;2YA;2YE;2YI;2YO;2YU;2YV;1SMALL LETTER A;3DA;3DE;3DI;3DLA;3DO;3DU;3DV;3E
3GA;3GE;3GI;3GO;3GU;3GV;3HA;3HE;3HI;3HNA;3HO;3HU;3HV;3I;3KA;3LA;3LE;3LI;3LO;3LU;3LV;3MA;3ME;3MI;3MO
3MU;3MV;3NA;3NAH;3NE;3NI;3NO;3NU;3NV;3O;3QUA;3QUE;3QUI;3QUO;3QUU;3QUV;3S;3SA;3SE;3SI;3SO;3SU;3SV
3TA;3TE;3TI;3TLA;3TLE;3TLI;3TLO;3TLU;3TLV;3TSA;3TSE;3TSI;3TSO;3TSU;3TSV;3U;3V;3WA;3WE;3WI;3WO;3WU
3WV;3YA;3YE;3YI;3YO;3YU;3YV;0CHERRIES;0CHERRY BLOSSOM;0CHESTNUT;0CHI RHO;0CHICKEN;0CHILD
0CHILDREN CROSSING;0CHIPMUNK;0CHIRON;0CHOCOLATE BAR;0CHOPSTICKS;0CHORASMIAN LETTER ALEPH;2AYIN
2BETH;2CURLED WAW;2DALETH;2GIMEL;2HE;2HETH;2KAPH;2LAMEDH;2MEM;2NUN;2PE;2RESH;2SAMEKH;2SHIN
2SMALL ALEPH;2TAW;2WAW;2YODH;2ZAYIN;1NUMBER FOUR;2ONE;3HUNDRED;2TEN;2THREE;2TWENTY;2TWO
0CHRISTMAS TREE;0CHURCH;0CINEMA
0CIRCLE DIVIDED BY HORIZONTAL BAR AND TOP HALF DIVIDED BY VERTICAL BAR
1WITH ALL BUT UPPER LEFT QUADRANT BLACK;2HORIZONTAL BAR;2LEFT HALF BLACK;2LOWER HALF BLACK
2RIGHT HALF BLACK;2SMALL CIRCLE TO THE RIGHT;2SUPERIMPOSED X;2TWO HORIZONTAL STROKES TO THE RIGHT
2UPPER HALF BLACK;3RIGHT QUADRANT BLACK;2VERTICAL FILL;0CIRCLED ANTICLOCKWISE ARROW
1ANTICLOCKWISE-ROTATED DIVISION SIGN;1ASTERISK OPERATOR;1BOLD X;1BULLET;1C WITH OVERLAID BACKSLASH
1CC;1CD;1CROSS FORMEE;3WITH FOUR DOTS;4TWO DOTS;2POMMEE;1CROSSING LANES;1DASH;1DIGIT EIGHT;2FIVE
2FOUR;2NINE;2ONE;2SEVEN;2SIX;2THREE;2TWO;2ZERO;1DIVISION SIGN;2SLASH
1DOLLAR SIGN WITH OVERLAID BACKSLASH;1DOT OPERATOR;1EQUALS;1GREATER-THAN;1HANGUL CHIEUCH;3A;2CIEUC
3A;2HIEUH;3A;2IEUNG;3A;3U;2KHIEUKH;3A;2KIYEOK;3A;2MIEUM;3A;2NIEUN;3A;2PHIEUPH;3A;2PIEUP;3A;2RIEUL
3A;2SIOS;3A;2THIEUTH;3A;2TIKEUT;3A;1HEAVY WHITE RIGHTWARDS ARROW;1HORIZONTAL BAR WITH NOTCH
1HUMAN FIGURE;1IDEOGRAPH ACCEPT;2ADVANTAGE;2ALLIANCE;2ATTENTION;2CENTRE;2CONGRATULATION;2COPY
2CORRECT;2EARTH;2EIGHT;2ENTERPRISE;2EXCELLENT;2FEMALE;2FINANCIAL;2FIRE;2FIVE;2FOUR;2HAVE;2HIGH
2ITEM;2KINDERGARTEN;2KOTO;2LABOR;2LEFT;2LOW;2MALE;2MEDICINE;2METAL;2MOON;2NAME;2NIGHT;2NINE;2ONE
2PRINT;2QUESTION;2RELIGION;2RESOURCE;2REST;2RIGHT;2SCHOOL;2SECRET;2SEVEN;2SIX;2SOCIETY;2SPECIAL
2STOCK;2STUDY;2SUITABLE;2SUN;2SUPERVISE;2TEN;2THREE;2TWO;2WATER;2WOOD;1INFORMATION SOURCE
1ITALIC LATIN CAPITAL LETTER C;5R;1KATAKANA A;2E;2HA;2HE;2HI;2HO;2HU;2I;2KA;2KE;2KI;2KO;2KU;2MA;2ME
2MI;2MO;2MU;2NA;2NE;2NI;2NO;2NU;2O;2RA;2RE;2RI;2RO;2RU;2SA;2SE;2SI;2SO;2SU;2TA;2TE;2TI;2TO;2TU;2U
2WA;2WE;2WI;2WO;2YA;2YO;2YU;1KOREAN CHARACTER CHAMKO;3JUEUI;1LATIN CAPITAL LETTER A;4B;4C;4D;4E;4F
4G;4H;4I;4J;4K;4L;4M;4N;4O;4P;4Q;4R;4S;4T;4U;4V;4W;4X;4Y;4Z;2SMALL LETTER A;4B;4C;4D;4E;4F;4G;4H;4I
4J;4K;4L;4M;4N;4O;4P;4Q;4R;4S;4T;4U;4V;4W;4X;4Y;4Z;1LESS-THAN;1MINUS
1MULTIPLICATION SIGN WITH CIRCUMFLEX ACCENT;1NUMBER EIGHTEEN;2EIGHTY ON BLACK SQUARE;2ELEVEN
2FIFTEEN;2FIFTY;3ON BLACK SQUARE;2FORTY;3EIGHT;3FIVE;3FOUR;3NINE;3ON BLACK SQUARE;3ONE;3SEVEN;3SIX
3THREE;3TWO;2FOURTEEN;2NINETEEN;2SEVENTEEN;2SEVENTY ON BLACK SQUARE;2SIXTEEN;2SIXTY ON BLACK SQUARE
2TEN;3ON BLACK SQUARE;2THIRTEEN;2THIRTY;3EIGHT;3FIVE;3FOUR;3NINE;3ON BLACK SQUARE;3ONE;3SEVEN;3SIX
3THREE;3TWO;2TWELVE;2TWENTY;3EIGHT;3FIVE;3FOUR;3NINE;3ON BLACK SQUARE;3ONE;3SEVEN;3SIX;3THREE;3TWO
1OPEN CENTRE EIGHT POINTED STAR;1PARALLEL;1PERPENDICULAR;1PLUS;1POSTAL MARK;1REVERSE SOLIDUS
1RING OPERATOR;1SQUARE;1TIMES;1TRIANGLE;2DOWN;1VERTICAL BAR;1WHITE BULLET;2STAR;1WZ;1X
1ZERO WITH SLASH;0CIRCULATION FUNCTION;0CIRCUMFLEX ACCENT;0CIRCUS TENT;0CITYSCAPE;1AT DUSK
0CJK COMPATIBILITY IDEOGRAPH-2F800;2IDEOGRAPH-2F801;2IDEOGRAPH-2F802;2IDEOGRAPH-2F803
2IDEOGRAPH-2F804;2IDEOGRAPH-2F805;2IDEOGRAPH-2F806;2IDEOGRAPH-2F807;2IDEOGRAPH-2F808
2IDEOGRAPH-2F809;2IDEOGRAPH-2F80A;2IDEOGRAPH-2F80B;2IDEOGRAPH-2F80C;2IDEOGRAPH-2F80D
2IDEOGRAPH-2F80E;2IDEOGRAPH-2F80F;2IDEOGRAPH-2F810;2IDEOGRAPH-2F811;2IDEOGRAPH-2F812
2IDEOGRAPH-2F813;2IDEOGRAPH-2F814;2IDEOGRAPH-2F815;2IDEOGRAPH-2F816;2IDEOGRAPH-2F817
2IDEOGRAPH-2F818;2IDEOGRAPH-2F819;2IDEOGRAPH-2F81A;2IDEOGRAPH-2F81B;2IDEOGRAPH-2F81C
2IDEOGRAPH-2F81D;2IDEOGRAPH-2F81E;2IDEOGRAPH-2F81F;2IDEOGRAPH-2F820;2IDEOGRAPH-2F821
2IDEOGRAPH-2F822;2IDEOGRAPH-2F823;2IDEOGRAPH-2F824;2IDEOGRAPH-2F825;2IDEOGRAPH-2F826
2IDEOGRAPH-2F827;2IDEOGRAPH-2F828;2IDEOGRAPH-2F829;2IDEOGRAPH-2F82A;2IDEOGRAPH-2F82B
2IDEOGRAPH-2F82C;2IDEOGRAPH-2F82D;2IDEOGRAPH-2F82E;2IDEOGRAPH-2F82F;2IDEOGRAPH-2F830
2IDEOGRAPH-2F831;2IDEOGRAPH-2F832;2IDEOGRAPH-2F833;2IDEOGRAPH-2F834;2IDEOGRAPH-2F835
2IDEOGRAPH-2F836;2IDEOGRAPH-2F837;2IDEOGRAPH-2F838;2IDEOGRAPH-2F839;2IDEOGRAPH-2F83A
2IDEOGRAPH-2F83B;2IDEOGRAPH-2F83C;2IDEOGRAPH-2F83D;2IDEOGRAPH-2F83E;2IDEOGRAPH-2F83F
2IDEOGRAPH-2F840;2IDEOGRAPH-2F841;2IDEOGRAPH-2F842;2IDEOGRAPH-2F843;2IDEOGRAPH-2F844
2IDEOGRAPH-2F845;2IDEOGRAPH-2F846;2IDEOGRAPH-2F847;2IDEOGRAPH-2F848;2IDEOGRAPH-2F849
2IDEOGRAPH-2F84A;2IDEOGRAPH-2F84B;2IDEOGRAPH-2F84C;2IDEOGRAPH-2F84D;2IDEOGRAPH-2F84E
2IDEOGRAPH-2F84F;2IDEOGRAPH-2F850;2IDEOGRAPH-2F851;2IDEOGRAPH-2F852;2IDEOGRAPH-2F853
2IDEOGRAPH-2F854;2IDEOGRAPH-2F855;2IDEOGRAPH-2F856;2IDEOGRAPH-2F857;2IDEOGRAPH-2F858
2IDEOGRAPH-2F859;2IDEOGRAPH-2F85A;2IDEOGRAPH-2F85B;2IDEOGRAPH-2F85C;2IDEOGRAPH-2F85D
2IDEOGRAPH-2F85E;2IDEOGRAPH-2F85F;2IDEOGRAPH-2F860;2IDEOGRAPH-2F861;2IDEOGRAPH-2F862
2IDEOGRAPH-2F863;2IDEOGRAPH-2F864;2IDEOGRAPH-2F865;2IDEOGRAPH-2F866;2IDEOGRAPH-2F867
2IDEOGRAPH-2F868;2IDEOGRAPH-2F869;2IDEOGRAPH-2F86A;2IDEOGRAPH-2F86B;2IDEOGRAPH-2F86C
2IDEOGRAPH-2F86D;2IDEOGRAPH-2F86E;2IDEOGRAPH-2F86F;2IDEOGRAPH-2F870;2IDEOGRAPH-2F871
2IDEOGRAPH-2F872;2IDEOGRAPH-2F873;2IDEOGRAPH-2F874;2IDEOGRAPH-2F875;2IDEOGRAPH-2F876
2IDEOGRAPH-2F877;2IDEOGRAPH-2F878;2IDEOGRAPH-2F879;2IDEOGRAPH-2F87A;2IDEOGRAPH-2F87B
2IDEOGRAPH-2F87C;2IDEOGRAPH-2F87D;2IDEOGRAPH-2F87E;2IDEOGRAPH-2F87F;2IDEOGRAPH-2F880
2IDEOGRAPH-2F881;2IDEOGRAPH-2F882;2IDEOGRAPH-2F883;2IDEOGRAPH-2F884;2IDEOGRAPH-2F885
2IDEOGRAPH-2F886;2IDEOGRAPH-2F887;2IDEOGRAPH-2F888;2IDEOGRAPH-2F889;2IDEOGRAPH-2F88A
2IDEOGRAPH-2F88B;2IDEOGRAPH-2F88C;2IDEOGRAPH-2F88D;2IDEOGRAPH-2F88E;2IDEOGRAPH-2F88F
2IDEOGRAPH-2F890;2IDEOGRAPH-2F891;2IDEOGRAPH-2F892;2IDEOGRAPH-2F893;2IDEOGRAPH-2F894
2IDEOGRAPH-2F895;2IDEOGRAPH-2F896;2IDEOGRAPH-2F897;2IDEOGRAPH-2F898;2IDEOGRAPH-2F899
2IDEOGRAPH-2F89A;2IDEOGRAPH-2F89B;2IDEOGRAPH-2F89C;2IDEOGRAPH-2F89D;2IDEOGRAPH-2F89E
2IDEOGRAPH-2F89F;2IDEOGRAPH-2F8A0;2IDEOGRAPH-2F8A1;2IDEOGRAPH-2F8A2;2IDEOGRAPH-2F8A3
2IDEOGRAPH-2F8A4;2IDEOGRAPH-2F8A5;2IDEOGRAPH-2F8A6;2IDEOGRAPH-2F8A7;2IDEOGRAPH-2F8A8
2IDEOGRAPH-2F8A9;2IDEOGRAPH-2F8AA;2IDEOGRAPH-2F8AB;2IDEOGRAPH-2F8AC;2IDEOGRAPH-2F8AD
2IDEOGRAPH-2F8AE;2IDEOGRAPH-2F8AF;2IDEOGRAPH-2F8B0;2IDEOGRAPH-2F8B1;2IDEOGRAPH-2F8B2
2IDEOGRAPH-2F8B3;2IDEOGRAPH-2F8B4;2IDEOGRAPH-2F8B5;2IDEOGRAPH-2F8B6;2IDEOGRAPH-2F8B7
2IDEOGRAPH-2F8B8;2IDEOGRAPH-2F8B9;2IDEOGRAPH-2F8BA;2IDEOGRAPH-2F8BB;2IDEOGRAPH-2F8BC
2IDEOGRAPH-2F8BD;2IDEOGRAPH-2F8BE;2IDEOGRAPH-2F8BF;2IDEOGRAPH-2F8C0;2IDEOGRAPH-2F8C1
2IDEOGRAPH-2F8C2;2IDEOGRAPH-2F8C3;2IDEOGRAPH-2F8C4;2IDEOGRAPH-2F8C5;2IDEOGRAPH-2F8C6
2IDEOGRAPH-2F8C7;2IDEOGRAPH-2F8C8;2IDEOGRAPH-2F8C9;2IDEOGRAPH-2F8CA;2IDEOGRAPH-2F8CB
2IDEOGRAPH-2F8CC;2IDEOGRAPH-2F8CD;2IDEOGRAPH-2F8CE;2IDEOGRAPH-2F8CF;2IDEOGRAPH-2F8D0
2IDEOGRAPH-2F8D1;2IDEOGRAPH-2F8D2;2IDEOGRAPH-2F8D3;2IDEOGRAPH-2F8D4;2IDEOGRAPH-2F8D5
2IDEOGRAPH-2F8D6;2IDEOGRAPH-2F8D7;2IDEOGRAPH-2F8D8;2IDEOGRAPH-2F8D9;2IDEOGRAPH-2F8DA
2IDEOGRAPH-2F8DB;2IDEOGRAPH-2F8DC;2IDEOGRAPH-2F8DD;2IDEOGRAPH-2F8DE;2IDEOGRAPH-2F8DF
2IDEOGRAPH-2F8E0;2IDEOGRAPH-2F8E1;2IDEOGRAPH-2F8E2;2IDEOGRAPH-2F8E3;2IDEOGRAPH-2F8E4
2IDEOGRAPH-2F8E5;2IDEOGRAPH-2F8E6;2IDEOGRAPH-2F8E7;2IDEOGRAPH-2F8E8;2IDEOGRAPH-2F8E9
2IDEOGRAPH-2F8EA;2IDEOGRAPH-2F8EB;2IDEOGRAPH-2F8EC;2IDEOGRAPH-2F8ED;2IDEOGRAPH-2F8EE
2IDEOGRAPH-2F8EF;2IDEOGRAPH-2F8F0;2IDEOGRAPH-2F8F1;2IDEOGRAPH-2F8F2;2IDEOGRAPH-2F8F3
2IDEOGRAPH-2F8F4;2IDEOGRAPH-2F8F5;2IDEOGRAPH-2F8F6;2IDEOGRAPH-2F8F7;2IDEOGRAPH-2F8F8
2IDEOGRAPH-2F8F9;2IDEOGRAPH-2F8FA;2IDEOGRAPH-2F8FB;2IDEOGRAPH-2F8FC;2IDEOGRAPH-2F8FD
2IDEOGRAPH-2F8FE;2IDEOGRAPH-2F8FF;2IDEOGRAPH-2F900;2IDEOGRAPH-2F901;2IDEOGRAPH-2F902
2IDEOGRAPH-2F903;2IDEOGRAPH-2F904;2IDEOGRAPH-2F905;2IDEOGRAPH-2F906;2IDEOGRAPH-2F907
2IDEOGRAPH-2F908;2IDEOGRAPH-2F909;2IDEOGRAPH-2F90A;2IDEOGRAPH-2F90B;2IDEOGRAPH-2F90C
2IDEOGRAPH-2F90D;2IDEOGRAPH-2F90E;2IDEOGRAPH-2F90F;2IDEOGRAPH-2F910;2IDEOGRAPH-2F911
2IDEOGRAPH-2F912;2IDEOGRAPH-2F913;2IDEOGRAPH-2F914;2IDEOGRAPH-2F915;2IDEOGRAPH-2F916
2IDEOGRAPH-2F917;2IDEOGRAPH-2F918;2IDEOGRAPH-2F919;2IDEOGRAPH-2F91A;2IDEOGRAPH-2F91B
2IDEOGRAPH-2F91C;2IDEOGRAPH-2F91D;2IDEOGRAPH-2F91E;2IDEOGRAPH-2F91F;2IDEOGRAPH-2F920
2IDEOGRAPH-2F921;2IDEOGRAPH-2F922;2IDEOGRAPH-2F923;2IDEOGRAPH-2F924;2IDEOGRAPH-2F925
2IDEOGRAPH-2F926;2IDEOGRAPH-2F927;2IDEOGRAPH-2F928;2IDEOGRAPH-2F929;2IDEOGRAPH-2F92A
2IDEOGRAPH-2F92B;2IDEOGRAPH-2F92C;2IDEOGRAPH-2F92D;2IDEOGRAPH-2F92E;2IDEOGRAPH-2F92F
2IDEOGRAPH-2F930;2IDEOGRAPH-2F931;2IDEOGRAPH-2F932;2IDEOGRAPH-2F933;2IDEOGRAPH-2F934
2IDEOGRAPH-2F935;2IDEOGRAPH-2F936;2IDEOGRAPH-2F937;2IDEOGRAPH-2F938;2IDEOGRAPH-2F939
2IDEOGRAPH-2F93A;2IDEOGRAPH-2F93B;2IDEOGRAPH-2F93C;2IDEOGRAPH-2F93D;2IDEOGRAPH-2F93E
2IDEOGRAPH-2F93F;2IDEOGRAPH-2F940;2IDEOGRAPH-2F941;2IDEOGRAPH-2F942;2IDEOGRAPH-2F943
2IDEOGRAPH-2F944;2IDEOGRAPH-2F945;2IDEOGRAPH-2F946;2IDEOGRAPH-2F947;2IDEOGRAPH-2F948
2IDEOGRAPH-2F949;2IDEOGRAPH-2F94A;2IDEOGRAPH-2F94B;2IDEOGRAPH-2F94C;2IDEOGRAPH-2F94D
2IDEOGRAPH-2F94E;2IDEOGRAPH-2F94F;2IDEOGRAPH-2F950;2IDEOGRAPH-2F951;2IDEOGRAPH-2F952
2IDEOGRAPH-2F953;2IDEOGRAPH-2F954;2IDEOGRAPH-2F955;2IDEOGRAPH-2F956;2IDEOGRAPH-2F957
2IDEOGRAPH-2F958;2IDEOGRAPH-2F959;2IDEOGRAPH-2F95A;2IDEOGRAPH-2F95B;2IDEOGRAPH-2F95C
2IDEOGRAPH-2F95D;2IDEOGRAPH-2F95E;2IDEOGRAPH-2F95F;2IDEOGRAPH-2F960;2IDEOGRAPH-2F961
2IDEOGRAPH-2F962;2IDEOGRAPH-2F963;2IDEOGRAPH-2F964;2IDEOGRAPH-2F965;2IDEOGRAPH-2F966
2IDEOGRAPH-2F967;2IDEOGRAPH-2F968;2IDEOGRAPH-2F969;2IDEOGRAPH-2F96A;2IDEOGRAPH-2F96B
2IDEOGRAPH-2F96C;2IDEOGRAPH-2F96D;2IDEOGRAPH-2F96E;2IDEOGRAPH-2F96F;2IDEOGRAPH-2F970
2IDEOGRAPH-2F971;2IDEOGRAPH-2F972;2IDEOGRAPH-2F973;2IDEOGRAPH-2F974;2IDEOGRAPH-2F975
2IDEOGRAPH-2F976;2IDEOGRAPH-2F977;2IDEOGRAPH-2F978;2IDEOGRAPH-2F979;2IDEOGRAPH-2F97A
2IDEOGRAPH-2F97B;2IDEOGRAPH-2F97C;2IDEOGRAPH-2F97D;2IDEOGRAPH-2F97E;2IDEOGRAPH-2F97F
2IDEOGRAPH-2F980;2IDEOGRAPH-2F981;2IDEOGRAPH-2F982;2IDEOGRAPH-2F983;2IDEOGRAPH-2F984
2IDEOGRAPH-2F985;2IDEOGRAPH-2F986;2IDEOGRAPH-2F987;2IDEOGRAPH-2F988;2IDEOGRAPH-2F989
2IDEOGRAPH-2F98A;2IDEOGRAPH-2F98B;2IDEOGRAPH-2F98C;2IDEOGRAPH-2F98D;2IDEOGRAPH-2F98E
2IDEOGRAPH-2F98F;2IDEOGRAPH-2F990;2IDEOGRAPH-2F991;2IDEOGRAPH-2F992;2IDEOGRAPH-2F993
2IDEOGRAPH-2F994;2IDEOGRAPH-2F995;2IDEOGRAPH-2F996;2IDEOGRAPH-2F997;2IDEOGRAPH-2F998
2IDEOGRAPH-2F999;2IDEOGRAPH-2F99A;2IDEOGRAPH-2F99B;2IDEOGRAPH-2F99C;2IDEOGRAPH-2F99D
2IDEOGRAPH-2F99E;2IDEOGRAPH-2F99F;2IDEOGRAPH-2F9A0;2IDEOGRAPH-2F9A1;2IDEOGRAPH-2F9A2
2IDEOGRAPH-2F9A3;2IDEOGRAPH-2F9A4;2IDEOGRAPH-2F9A5;2IDEOGRAPH-2F9A6;2IDEOGRAPH-2F9A7
2IDEOGRAPH-2F9A8;2IDEOGRAPH-2F9A9;2IDEOGRAPH-2F9AA;2IDEOGRAPH-2F9AB;2IDEOGRAPH-2F9AC
2IDEOGRAPH-2F9AD;2IDEOGRAPH-2F9AE;2IDEOGRAPH-2F9AF;2IDEOGRAPH-2F9B0;2IDEOGRAPH-2F9B1
2IDEOGRAPH-2F9B2;2IDEOGRAPH-2F9B3;2IDEOGRAPH-2F9B4;2IDEOGRAPH-2F9B5;2IDEOGRAPH-2F9B6
2IDEOGRAPH-2F9B7;2IDEOGRAPH-2F9B8;2IDEOGRAPH-2F9B9;2IDEOGRAPH-2F9BA;2IDEOGRAPH-2F9BB
2IDEOGRAPH-2F9BC;2IDEOGRAPH-2F9BD;2IDEOGRAPH-2F9BE;2IDEOGRAPH-2F9BF;2IDEOGRAPH-2F9C0
2IDEOGRAPH-2F9C1;2IDEOGRAPH-2F9C2;2IDEOGRAPH-2F9C3;2IDEOGRAPH-2F9C4;2IDEOGRAPH-2F9C5
2IDEOGRAPH-2F9C6;2IDEOGRAPH-2F9C7;2IDEOGRAPH-2F9C8;2IDEOGRAPH-2F9C9;2IDEOGRAPH-2F9CA
2IDEOGRAPH-2F9CB;2IDEOGRAPH-2F9CC;2IDEOGRAPH-2F9CD;2IDEOGRAPH-2F9CE;2IDEOGRAPH-2F9CF
2IDEOGRAPH-2F9D0;2IDEOGRAPH-2F9D1;2IDEOGRAPH-2F9D2;2IDEOGRAPH-2F9D3;2IDEOGRAPH-2F9D4
2IDEOGRAPH-2F9D5;2IDEOGRAPH-2F9D6;2IDEOGRAPH-2F9D7;2IDEOGRAPH-2F9D8;2IDEOGRAPH-2F9D9
2IDEOGRAPH-2F9DA;2IDEOGRAPH-2F9DB;2IDEOGRAPH-2F9DC;2IDEOGRAPH-2F9DD;2IDEOGRAPH-2F9DE
2IDEOGRAPH-2F9DF;2IDEOGRAPH-2F9E0;2IDEOGRAPH-2F9E1;2IDEOGRAPH-2F9E2;2IDEOGRAPH-2F9E3
2IDEOGRAPH-2F9E4;2IDEOGRAPH-2F9E5;2IDEOGRAPH-2F9E6;2IDEOGRAPH-2F9E7;2IDEOGRAPH-2F9E8
2IDEOGRAPH-2F9E9;2IDEOGRAPH-2F9EA;2IDEOGRAPH-2F9EB;2IDEOGRAPH-2F9EC;2IDEOGRAPH-2F9ED
2IDEOGRAPH-2F9EE;2IDEOGRAPH-2F9EF;2IDEOGRAPH-2F9F0;2IDEOGRAPH-2F9F1;2IDEOGRAPH-2F9F2
2IDEOGRAPH-2F9F3;2IDEOGRAPH-2F9F4;2IDEOGRAPH-2F9F5;2IDEOGRAPH-2F9F6;2IDEOGRAPH-2F9F7
2IDEOGRAPH-2F9F8;2IDEOGRAPH-2F9F9;2IDEOGRAPH-2F9FA;2IDEOGRAPH-2F9FB;2IDEOGRAPH-2F9FC
2IDEOGRAPH-2F9FD;2IDEOGRAPH-2F9FE;2IDEOGRAPH-2F9FF;2IDEOGRAPH-2FA00;2IDEOGRAPH-2FA01
2IDEOGRAPH-2FA02;2IDEOGRAPH-2FA03;2IDEOGRAPH-2FA04;2IDEOGRAPH-2FA05;2IDEOGRAPH-2FA06
2IDEOGRAPH-2FA07;2IDEOGRAPH-2FA08;2IDEOGRAPH-2FA09;2IDEOGRAPH-2FA0A;2IDEOGRAPH-2FA0B
2IDEOGRAPH-2FA0C;2IDEOGRAPH-2FA0D;2IDEOGRAPH-2FA0E;2IDEOGRAPH-2FA0F;2IDEOGRAPH-2FA10
2IDEOGRAPH-2FA11;2IDEOGRAPH-2FA12;2IDEOGRAPH-2FA13;2IDEOGRAPH-2FA14;2IDEOGRAPH-2FA15
2IDEOGRAPH-2FA16;2IDEOGRAPH-2FA17;2IDEOGRAPH-2FA18;2IDEOGRAPH-2FA19;2IDEOGRAPH-2FA1A
2IDEOGRAPH-2FA1B;2IDEOGRAPH-2FA1C;2IDEOGRAPH-2FA1D;2IDEOGRAPH-F900;2IDEOGRAPH-F901;2IDEOGRAPH-F902
2IDEOGRAPH-F903;2IDEOGRAPH-F904;2IDEOGRAPH-F905;2IDEOGRAPH-F906;2IDEOGRAPH-F907;2IDEOGRAPH-F908
2IDEOGRAPH-F909;2IDEOGRAPH-F90A;2IDEOGRAPH-F90B;2IDEOGRAPH-F90C;2IDEOGRAPH-F90D;2IDEOGRAPH-F90E
2IDEOGRAPH-F90F;2IDEOGRAPH-F910;2IDEOGRAPH-F911;2IDEOGRAPH-F912;2IDEOGRAPH-F913;2IDEOGRAPH-F914
2IDEOGRAPH-F915;2IDEOGRAPH-F916;2IDEOGRAPH-F917;2IDEOGRAPH-F918;2IDEOGRAPH-F919;2IDEOGRAPH-F91A
2IDEOGRAPH-F91B;2IDEOGRAPH-F91C;2IDEOGRAPH-F91D;2IDEOGRAPH-F91E;2IDEOGRAPH-F91F;2IDEOGRAPH-F920
2IDEOGRAPH-F921;2IDEOGRAPH-F922;2IDEOGRAPH-F923;2IDEOGRAPH-F924;2IDEOGRAPH-F925;2IDEOGRAPH-F926
2IDEOGRAPH-F927;2IDEOGRAPH-F928;2IDEOGRAPH-F929;2IDEOGRAPH-F92A;2IDEOGRAPH-F92B;2IDEOGRAPH-F92C
2IDEOGRAPH-F92D;2IDEOGRAPH-F92E;2IDEOGRAPH-F92F;2IDEOGRAPH-F930;2IDEOGRAPH-F931;2IDEOGRAPH-F932
2IDEOGRAPH-F933;2IDEOGRAPH-F934;2IDEOGRAPH-F935;2IDEOGRAPH-F936;2IDEOGRAPH-F937;2IDEOGRAPH-F938
2IDEOGRAPH-F939;2IDEOGRAPH-F93A;2IDEOGRAPH-F93B;2IDEOGRAPH-F93C;2IDEOGRAPH-F93D;2IDEOGRAPH-F93E
2IDEOGRAPH-F93F;2IDEOGRAPH-F940;2IDEOGRAPH-F941;2IDEOGRAPH-F942;2IDEOGRAPH-F943;2IDEOGRAPH-F944
2IDEOGRAPH-F945;2IDEOGRAPH-F946;2IDEOGRAPH-F947;2IDEOGRAPH-F948;2IDEOGRAPH-F949;2IDEOGRAPH-F94A
2IDEOGRAPH-F94B;2IDEOGRAPH-F94C;2IDEOGRAPH-F94D;2IDEOGRAPH-F94E;2IDEOGRAPH-F94F;2IDEOGRAPH-F950
2IDEOGRAPH-F951;2IDEOGRAPH-F952;2IDEOGRAPH-F953;2IDEOGRAPH-F954;2IDEOGRAPH-F955;2IDEOGRAPH-F956
2IDEOGRAPH-F957;2IDEOGRAPH-F958;2IDEOGRAPH-F959;2IDEOGRAPH-F95A;2IDEOGRAPH-F95B;2IDEOGRAPH-F95C
2IDEOGRAPH-F95D;2IDEOGRAPH-F95E;2IDEOGRAPH-F95F;2IDEOGRAPH-F960;2IDEOGRAPH-F961;2IDEOGRAPH-F962
2IDEOGRAPH-F963;2IDEOGRAPH-F964;2IDEOGRAPH-F965;2IDEOGRAPH-F966;2IDEOGRAPH-F967;2IDEOGRAPH-F968
2IDEOGRAPH-F969;2IDEOGRAPH-F96A;2IDEOGRAPH-F96B;2IDEOGRAPH-F96C;2IDEOGRAPH-F96D;2IDEOGRAPH-F96E
2IDEOGRAPH-F96F;2IDEOGRAPH-F970;2IDEOGRAPH-F971;2IDEOGRAPH-F972;2IDEOGRAPH-F973;2IDEOGRAPH-F974
2IDEOGRAPH-F975;2IDEOGRAPH-F976;2IDEOGRAPH-F977;2IDEOGRAPH-F978;2IDEOGRAPH-F979;2IDEOGRAPH-F97A
2IDEOGRAPH-F97B;2IDEOGRAPH-F97C;2IDEOGRAPH-F97D;2IDEOGRAPH-F97E;2IDEOGRAPH-F97F;2IDEOGRAPH-F980
2IDEOGRAPH-F981;2IDEOGRAPH-F982;2IDEOGRAPH-F983;2IDEOGRAPH-F984;2IDEOGRAPH-F985;2IDEOGRAPH-F986
2IDEOGRAPH-F987;2IDEOGRAPH-F988;2IDEOGRAPH-F989;2IDEOGRAPH-F98A;2IDEOGRAPH-F98B;2IDEOGRAPH-F98C
2IDEOGRAPH-F98D;2IDEOGRAPH-F98E;2IDEOGRAPH-F98F;2IDEOGRAPH-F990;2IDEOGRAPH-F991;2IDEOGRAPH-F992
2IDEOGRAPH-F993;2IDEOGRAPH-F994;2IDEOGRAPH-F995;2IDEOGRAPH-F996;2IDEOGRAPH-F997;2IDEOGRAPH-F998
2IDEOGRAPH-F999;2IDEOGRAPH-F99A;2IDEOGRAPH-F99B;2IDEOGRAPH-F99C;2IDEOGRAPH-F99D;2IDEOGRAPH-F99E
2IDEOGRAPH-F99F;2IDEOGRAPH-F9A0;2IDEOGRAPH-F9A1;2IDEOGRAPH-F9A2;2IDEOGRAPH-F9A3;2IDEOGRAPH-F9A4
2IDEOGRAPH-F9A5;2IDEOGRAPH-F9A6;2IDEOGRAPH-F9A7;2IDEOGRAPH-F9A8;2IDEOGRAPH-F9A9;2IDEOGRAPH-F9AA
2IDEOGRAPH-F9AB;2IDEOGRAPH-F9AC;2IDEOGRAPH-F9AD;2IDEOGRAPH-F9AE;2IDEOGRAPH-F9AF;2IDEOGRAPH-F9B0
2IDEOGRAPH-F9B1;2IDEOGRAPH-F9B2;2IDEOGRAPH-F9B3;2IDEOGRAPH-F9B4;2IDEOGRAPH-F9B5;2IDEOGRAPH-F9B6
2IDEOGRAPH-F9B7;2IDEOGRAPH-F9B8;2IDEOGRAPH-F9B9;2IDEOGRAPH-F9BA;2IDEOGRAPH-F9BB;2IDEOGRAPH-F9BC
2IDEOGRAPH-F9BD;2IDEOGRAPH-F9BE;2IDEOGRAPH-F9BF;2IDEOGRAPH-F9C0;2IDEOGRAPH-F9C1;2IDEOGRAPH-F9C2
2IDEOGRAPH-F9C3;2IDEOGRAPH-F9C4;2IDEOGRAPH-F9C5;2IDEOGRAPH-F9C6;2IDEOGRAPH-F9C7;2IDEOGRAPH-F9C8
2IDEOGRAPH-F9C9;2IDEOGRAPH-F9CA;2IDEOGRAPH-F9CB;2IDEOGRAPH-F9CC;2IDEOGRAPH-F9CD;2IDEOGRAPH-F9CE
2IDEOGRAPH-F9CF;2IDEOGRAPH-F9D0;2IDEOGRAPH-F9D1;2IDEOGRAPH-F9D2;2IDEOGRAPH-F9D3;2IDEOGRAPH-F9D4
2IDEOGRAPH-F9D5;2IDEOGRAPH-F9D6;2IDEOGRAPH-F9D7;2IDEOGRAPH-F9D8;2IDEOGRAPH-F9D9;2IDEOGRAPH-F9DA
2IDEOGRAPH-F9DB;2IDEOGRAPH-F9DC;2IDEOGRAPH-F9DD;2IDEOGRAPH-F9DE;2IDEOGRAPH-F9DF;2IDEOGRAPH-F9E0
2IDEOGRAPH-F9E1;2IDEOGRAPH-F9E2;2IDEOGRAPH-F9E3;2IDEOGRAPH-F9E4;2IDEOGRAPH-F9E5;2IDEOGRAPH-F9E6
2IDEOGRAPH-F9E7;2IDEOGRAPH-F9E8;2IDEOGRAPH-F9E9;2IDEOGRAPH-F9EA;2IDEOGRAPH-F9EB;2IDEOGRAPH-F9EC
2IDEOGRAPH-F9ED;2IDEOGRAPH-F9EE;2IDEOGRAPH-F9EF;2IDEOGRAPH-F9F0;2IDEOGRAPH-F9F1;2IDEOGRAPH-F9F2
2IDEOGRAPH-F9F3;2IDEOGRAPH-F9F4;2IDEOGRAPH-F9F5;2IDEOGRAPH-F9F6;2IDEOGRAPH-F9F7;2IDEOGRAPH-F9F8
2IDEOGRAPH-F9F9;2IDEOGRAPH-F9FA;2IDEOGRAPH-F9FB;2IDEOGRAPH-F9FC;2IDEOGRAPH-F9FD;2IDEOGRAPH-F9FE
2IDEOGRAPH-F9FF;2IDEOGRAPH-FA00;2IDEOGRAPH-FA01;2IDEOGRAPH-FA02;2IDEOGRAPH-FA03;2IDEOGRAPH-FA04
2IDEOGRAPH-FA05;2IDEOGRAPH-FA06;2IDEOGRAPH-FA07;2IDEOGRAPH-FA08;2IDEOGRAPH-FA09;2IDEOGRAPH-FA0A
2IDEOGRAPH-FA0B;2IDEOGRAPH-FA0C;2IDEOGRAPH-FA0D;2IDEOGRAPH-FA0E;2IDEOGRAPH-FA0F;2IDEOGRAPH-FA10
2IDEOGRAPH-FA11;2IDEOGRAPH-FA12;2IDEOGRAPH-FA13;2IDEOGRAPH-FA14;2IDEOGRAPH-FA15;2IDEOGRAPH-FA16
2IDEOGRAPH-FA17;2IDEOGRAPH-FA18;2IDEOGRAPH-FA19;2IDEOGRAPH-FA1A;2IDEOGRAPH-FA1B;2IDEOGRAPH-FA1C
2IDEOGRAPH-FA1D;2IDEOGRAPH-FA1E;2IDEOGRAPH-FA1F;2IDEOGRAPH-FA20;2IDEOGRAPH-FA21;2IDEOGRAPH-FA22
2IDEOGRAPH-FA23;2IDEOGRAPH-FA24;2IDEOGRAPH-FA25;2IDEOGRAPH-FA26;2IDEOGRAPH-FA27;2IDEOGRAPH-FA28
2IDEOGRAPH-FA29;2IDEOGRAPH-FA2A;2IDEOGRAPH-FA2B;2IDEOGRAPH-FA2C;2IDEOGRAPH-FA2D;2IDEOGRAPH-FA2E
2IDEOGRAPH-FA2F;2IDEOGRAPH-FA30;2IDEOGRAPH-FA31;2IDEOGRAPH-FA32;2IDEOGRAPH-FA33;2IDEOGRAPH-FA34
2IDEOGRAPH-FA35;2IDEOGRAPH-FA36;2IDEOGRAPH-FA37;2IDEOGRAPH-FA38;2IDEOGRAPH-FA39;2IDEOGRAPH-FA3A
2IDEOGRAPH-FA3B;2IDEOGRAPH-FA3C;2IDEOGRAPH-FA3D;2IDEOGRAPH-FA3E;2IDEOGRAPH-FA3F;2IDEOGRAPH-FA40
2IDEOGRAPH-FA41;2IDEOGRAPH-FA42;2IDEOGRAPH-FA43;2IDEOGRAPH-FA44;2IDEOGRAPH-FA45;2IDEOGRAPH-FA46
2IDEOGRAPH-FA47;2IDEOGRAPH-FA48;2IDEOGRAPH-FA49;2IDEOGRAPH-FA4A;2IDEOGRAPH-FA4B;2IDEOGRAPH-FA4C
2IDEOGRAPH-FA4D;2IDEOGRAPH-FA4E;2IDEOGRAPH-FA4F;2IDEOGRAPH-FA50;2IDEOGRAPH-FA51;2IDEOGRAPH-FA52
2IDEOGRAPH-FA53;2IDEOGRAPH-FA54;2IDEOGRAPH-FA55;2IDEOGRAPH-FA56;2IDEOGRAPH-FA57;2IDEOGRAPH-FA58
2IDEOGRAPH-FA59;2IDEOGRAPH-FA5A;2IDEOGRAPH-FA5B;2IDEOGRAPH-FA5C;2IDEOGRAPH-FA5D;2IDEOGRAPH-FA5E
2IDEOGRAPH-FA5F;2IDEOGRAPH-FA60;2IDEOGRAPH-FA61;2IDEOGRAPH-FA62;2IDEOGRAPH-FA63;2IDEOGRAPH-FA64
2IDEOGRAPH-FA65;2IDEOGRAPH-FA66;2IDEOGRAPH-FA67;2IDEOGRAPH-FA68;2IDEOGRAPH-FA69;2IDEOGRAPH-FA6A
2IDEOGRAPH-FA6B;2IDEOGRAPH-FA6C;2IDEOGRAPH-FA6D;2IDEOGRAPH-FA70;2IDEOGRAPH-FA71;2IDEOGRAPH-FA72
2IDEOGRAPH-FA73;2IDEOGRAPH-FA74;2IDEOGRAPH-FA75;2IDEOGRAPH-FA76;2IDEOGRAPH-FA77;2IDEOGRAPH-FA78
2IDEOGRAPH-FA79;2IDEOGRAPH-FA7A;2IDEOGRAPH-FA7B;2IDEOGRAPH-FA7C;2IDEOGRAPH-FA7D;2IDEOGRAPH-FA7E
2IDEOGRAPH-FA7F;2IDEOGRAPH-FA80;2IDEOGRAPH-FA81;2IDEOGRAPH-FA82;2IDEOGRAPH-FA83;2IDEOGRAPH-FA84
2IDEOGRAPH-FA85;2IDEOGRAPH-FA86;2IDEOGRAPH-FA87;2IDEOGRAPH-FA88;2IDEOGRAPH-FA89;2IDEOGRAPH-FA8A
2IDEOGRAPH-FA8B;2IDEOGRAPH-FA8C;2IDEOGRAPH-FA8D;2IDEOGRAPH-FA8E;2IDEOGRAPH-FA8F;2IDEOGRAPH-FA90
2IDEOGRAPH-FA91;2IDEOGRAPH-FA92;2IDEOGRAPH-FA93;2IDEOGRAPH-FA94;2IDEOGRAPH-FA95;2IDEOGRAPH-FA96
2IDEOGRAPH-FA97;2IDEOGRAPH-FA98;2IDEOGRAPH-FA99;2IDEOGRAPH-FA9A;2IDEOGRAPH-FA9B;2IDEOGRAPH-FA9C
2IDEOGRAPH-FA9D;2IDEOGRAPH-FA9E;2IDEOGRAPH-FA9F;2IDEOGRAPH-FAA0;2IDEOGRAPH-FAA1;2IDEOGRAPH-FAA2
2IDEOGRAPH-FAA3;2IDEOGRAPH-FAA4;2IDEOGRAPH-FAA5;2IDEOGRAPH-FAA6;2IDEOGRAPH-FAA7;2IDEOGRAPH-FAA8
2IDEOGRAPH-FAA9;2IDEOGRAPH-FAAA;2IDEOGRAPH-FAAB;2IDEOGRAPH-FAAC;2IDEOGRAPH-FAAD;2IDEOGRAPH-FAAE
2IDEOGRAPH-FAAF;2IDEOGRAPH-FAB0;2IDEOGRAPH-FAB1;2IDEOGRAPH-FAB2;2IDEOGRAPH-FAB3;2IDEOGRAPH-FAB4
2IDEOGRAPH-FAB5;2IDEOGRAPH-FAB6;2IDEOGRAPH-FAB7;2IDEOGRAPH-FAB8;2IDEOGRAPH-FAB9;2IDEOGRAPH-FABA
2IDEOGRAPH-FABB;2IDEOGRAPH-FABC;2IDEOGRAPH-FABD;2IDEOGRAPH-FABE;2IDEOGRAPH-FABF;2IDEOGRAPH-FAC0
2IDEOGRAPH-FAC1;2IDEOGRAPH-FAC2;2IDEOGRAPH-FAC3;2IDEOGRAPH-FAC4;2IDEOGRAPH-FAC5;2IDEOGRAPH-FAC6
2IDEOGRAPH-FAC7;2IDEOGRAPH-FAC8;2IDEOGRAPH-FAC9;2IDEOGRAPH-FACA;2IDEOGRAPH-FACB;2IDEOGRAPH-FACC
2IDEOGRAPH-FACD;2IDEOGRAPH-FACE;2IDEOGRAPH-FACF;2IDEOGRAPH-FAD0;2IDEOGRAPH-FAD1;2IDEOGRAPH-FAD2
2IDEOGRAPH-FAD3;2IDEOGRAPH-FAD4;2IDEOGRAPH-FAD5;2IDEOGRAPH-FAD6;2IDEOGRAPH-FAD7;2IDEOGRAPH-FAD8
2IDEOGRAPH-FAD9;1RADICAL BAMBOO;2BLUE;2BOLT OF CLOTH;2BONE;2BOX;2BRUSH ONE;3TWO;2C-SIMPLIFIED BIRD
3CART;3DRAGON;3EAT;3EVEN;3FISH;3FLY;3FROG;3GATE;3GOLD;3HORSE;3LEAF;3LONG;3SALT;3SEE;3SHELL;3SILK
3SPEECH;3TANNED LEATHER;3TOOTH;3TURTLE;3WIND;2CHOKE;2CITY;2CIVILIAN;2CLIFF;2CLOTHES;2COW;2DEATH
2DIVINATION;2DOG;2EAT ONE;3THREE;3TWO;2EWE;2EYE;2FIRE;2FOOT;2GHOST;2GRASS ONE;3THREE;3TWO;2HAND
2HEAD;2HEART ONE;3TWO;2HORN;2J-SIMPLIFIED DRAGON;3EVEN;3TOOTH;3TURTLE;2JADE;2KNIFE ONE;3TWO
2LAME FOUR;3ONE;3THREE;3TWO;2LONG ONE;3TWO;2MEAT;2MESH;2MOON;2MORTAR;2MOTHER;2MOUND ONE;3TWO
2NET FOUR;3ONE;3THREE;3TWO;2OLD;2PAW ONE;3TWO;2PERSON;2RAIN;2RAM;2RAP;2REPEAT;2SEAL;2SECOND ONE
3THREE;3TWO;2SHEEP;2SILK;2SIMPLIFIED HALF TREE TRUNK;3HORN;3WALK;3WHEAT;3YELLOW;2SMALL ONE;3TWO
2SNAKE;2SNOUT ONE;3TWO;2SPIRIT ONE;3TWO;2SUN;2TABLE;2THREAD;2TIGER;2TURTLE;2WALK ONE;3TWO
2WATER ONE;3TWO;2WEST ONE;3TWO;1STROKE BXG;2D;2H;2HG;2HP;2HPWG;2HXWG;2HZ;2HZG;2HZT;2HZW;2HZWG;2HZZ
2HZZP;2HZZZ;2HZZZG;2N;2P;2PD;2PG;2PZ;2Q;2S;2SG;2SP;2ST;2SW;2SWG;2SWZ;2SZ;2SZWG;2SZZ;2T;2TN;2WG;2XG
0CLAMSHELL MOBILE PHONE;0CLAPPER BOARD;0CLAPPING HANDS SIGN;0CLASSICAL BUILDING
0CLEAR SCREEN SYMBOL;0CLINKING BEER MUGS;1GLASSES;0CLIPBOARD;0CLOCK FACE EIGHT OCLOCK;2EIGHT-THIRTY
2ELEVEN OCLOCK;2ELEVEN-THIRTY;2FIVE OCLOCK;2FIVE-THIRTY;2FOUR OCLOCK;2FOUR-THIRTY;2NINE OCLOCK
2NINE-THIRTY;2ONE OCLOCK;2ONE-THIRTY;2SEVEN OCLOCK;2SEVEN-THIRTY;2SIX OCLOCK;2SIX-THIRTY
2TEN OCLOCK;2TEN-THIRTY;2THREE OCLOCK;2THREE-THIRTY;2TWELVE OCLOCK;2TWELVE-THIRTY;2TWO OCLOCK
2TWO-THIRTY;0CLOCKWISE CLOSED CIRCLE ARROW;1CONTOUR INTEGRAL
1DOWNWARDS AND UPWARDS OPEN CIRCLE ARROWS;1GAPPED CIRCLE ARROW;1INTEGRAL;1OPEN CIRCLE ARROW
1RIGHT AND LEFT SEMICIRCLE ARROWS;1RIGHTWARDS AND LEFTWARDS OPEN CIRCLE ARROWS
7WITH CIRCLED ONE OVERLAY;1TOP SEMICIRCLE ARROW;1TRIANGLE-HEADED OPEN CIRCLE ARROW;0CLOSE UP
0CLOSED BOOK;1INTERSECTION WITH SERIFS;1LOCK WITH KEY;1MAILBOX WITH LOWERED FLAG;3RAISED FLAG
1SUBSET;2OR EQUAL TO;1SUPERSET;2OR EQUAL TO;1UMBRELLA;1UNION WITH SERIFS;4AND SMASH PRODUCT;0CLOUD
1WITH LIGHTNING;2RAIN;2SNOW;2TORNADO;0CLOWN FACE;0COAT;0COCKROACH;0COCKTAIL GLASS;0COCONUT;0COFFIN
0COIN;0COLLISION SYMBOL;0COLON;1EQUALS;1SIGN;0COMBINING ACUTE ACCENT;3BELOW;2TONE MARK
1ACUTE-GRAVE-ACUTE;1ACUTE-MACRON;1ALMOST EQUAL TO ABOVE;4BELOW;1ANNUITY SYMBOL
1ANTICLOCKWISE ARROW ABOVE;2RING OVERLAY;1ASTERISK ABOVE;2BELOW;1BINDU BELOW;1BREVE;2BELOW
1BREVE-MACRON;1BRIDGE ABOVE;2BELOW;1CANDRABINDU;1CARON;2BELOW;1CEDILLA;1CIRCUMFLEX ACCENT;3BELOW
1CLOCKWISE ARROW ABOVE;2RING OVERLAY;1COMMA ABOVE;3RIGHT;2BELOW;1CONJOINING MACRON;3BELOW
1CYRILLIC DASIA PNEUMATA;2HUNDRED MILLIONS SIGN;3THOUSANDS SIGN;2KAVYKA;2LETTER A;3BE;3BIG YUS;3CHE
3DE;3DJERV;3EF;3EL;3EM;3EN;3ER;3ES;3ES-TE;3FITA;3GHE;3HA;3HARD SIGN;3I;3IE;3IOTIFIED A;4BIG YUS;4E
3KA;3LITTLE YUS;3MONOGRAPH UK;3O;3OMEGA;3PE;3SHA;3SHCHA;3SOFT SIGN;3TE;3TSE;3U;3UKRAINIAN IE;3VE
3YAT;3YERU;3YI;3YU;3ZE;3ZHE;2MILLIONS SIGN;2PALATALIZATION;2PAYEROK;2POKRYTIE;2PSILI PNEUMATA
2TEN MILLIONS SIGN;2THOUSAND MILLIONS SIGN;2TITLO;3LEFT HALF;3RIGHT HALF;2VZMET;1DELETION MARK
1DEVANAGARI DIGIT EIGHT;3FIVE;3FOUR;3NINE;3ONE;3SEVEN;3SIX;3THREE;3TWO;3ZERO;2LETTER A;3KA;3NA;3PA
3RA;3U;3VI;2SIGN AVAGRAHA;1DIAERESIS;2BELOW;1DIAERESIS-RING;1DOT ABOVE;3LEFT;3RIGHT;2BELOW;3LEFT
1DOTTED ACUTE ACCENT;2GRAVE ACCENT;1DOUBLE ACUTE ACCENT;2BREVE;3BELOW;2CIRCUMFLEX ABOVE
2GRAVE ACCENT;2INVERTED BREVE;4BELOW;2LOW LINE;2MACRON;3BELOW;2OPEN MARK BELOW;2OVERLINE
2PARENTHESES ABOVE;2PLUS SIGN ABOVE;4BELOW;2RIGHTWARDS ARROW BELOW;2RING BELOW;2TILDE;3LEFT HALF
3RIGHT HALF;2VERTICAL LINE ABOVE;4BELOW;3STROKE OVERLAY;1DOUBLED CIRCUMFLEX ACCENT;1DOWN TACK BELOW
1DOWNWARDS ARROW;1ENCLOSING CIRCLE;3BACKSLASH;2DIAMOND;2KEYCAP;2SCREEN;2SQUARE
2UPWARD POINTING TRIANGLE;1EQUALS SIGN BELOW;1FERMATA;1FOUR DOTS ABOVE;1GLAGOLITIC LETTER AZU
3BIG YUS;3BUKY;3CHRIVI;3DJERVI;3DOBRO;3FITA;3FRITU;3GLAGOLI;3HERU;3I;3INITIAL IZHE;3IOTATED BIG YUS
4SMALL YUS;3IZHE;3KAKO;3LJUDIJE;3MYSLITE;3NASHI;3ONU;3POKOJI;3RITSI;3SHA;3SHTA;3SLOVO;3SMALL YUS
3TSI;3TVRIDO;3UKU;3VEDE;3YATI;3YERI;3YERU;3YESTU;3YO;3YU;3ZEMLJA;3ZHIVETE;1GRANTHA DIGIT FIVE;3FOUR
3ONE;3SIX;3THREE;3TWO;3ZERO;2LETTER A;3KA;3NA;3PA;3VI;1GRAPHEME JOINER;1GRAVE ACCENT;3BELOW
2TONE MARK;1GRAVE-ACUTE-GRAVE;1GRAVE-MACRON;1GREEK DIALYTIKA TONOS;2KORONIS;2MUSICAL PENTASEME
3TETRASEME;3TRISEME;2PERISPOMENI;2YPOGEGRAMMENI;1HOMOTHETIC ABOVE;1HOOK ABOVE;1HORN;1INFINITY
1INVERTED BREVE;3BELOW;2BRIDGE BELOW;2DOUBLE ARCH ABOVE;4BELOW;1IS BELOW
1KATAKANA-HIRAGANA SEMI-VOICED SOUND MARK;2VOICED SOUND MARK;1KAVYKA ABOVE LEFT;3RIGHT
1LATIN LETTER SMALL CAPITAL G;5L;5M;5N;5R;2SMALL LETTER A;5WITH DIAERESIS;4AE;4ALPHA;4AO;4AV;4B
4BETA;4C;5CEDILLA;4D;4E;4ESH;4ETH;4F;4FLATTENED OPEN A ABOVE;4G;4H;4I;4INSULAR D;5G;5R;5T;4K;4L
5WITH DOUBLE MIDDLE TILDE;4LONG S;4M;4N;4O;5WITH DIAERESIS;6LIGHT CENTRALIZATION STROKE;4P;4R
5BELOW;5ROTUNDA;4S;4SCHWA;4T;4TURNED W BELOW;4U;5WITH DIAERESIS;6LIGHT CENTRALIZATION STROKE;4V;4W
5BELOW;4X;4Z;1LEFT ANGLE ABOVE;3BELOW;2ARROW ABOVE;3BELOW;2ARROWHEAD ABOVE;3BELOW;2HALF RING ABOVE
4BELOW;2HARPOON ABOVE;2PARENTHESIS ABOVE LEFT;3BELOW LEFT;2RIGHT ARROW ABOVE;4BELOW;2TACK BELOW
1LEFTWARDS ARROW OVERLAY;2HARPOON WITH BARB DOWNWARDS;1LIGATURE LEFT HALF;4BELOW;2RIGHT HALF;4BELOW
1LIGHT CENTRALIZATION STROKE BELOW;1LONG DOUBLE SOLIDUS OVERLAY;2SOLIDUS OVERLAY;2STROKE OVERLAY
2VERTICAL LINE OVERLAY;1LOW LINE;1MACRON;2BELOW;2LEFT HALF;4BELOW;2RIGHT HALF;4BELOW;1MACRON-ACUTE
1MACRON-BREVE;1MACRON-GRAVE;1MINUS SIGN BELOW;1NOT TILDE ABOVE;1NUMBER SIGN ABOVE;1OGONEK;2ABOVE
1OLD PERMIC LETTER AN;4DOI;4NENOE;4SII;4ZATA;1OPEN MARK BELOW;1OVERLINE;1PALATALIZED HOOK BELOW
1PARENTHESES ABOVE;2BELOW;2OVERLAY;1PLUS SIGN ABOVE;3BELOW;1RETROFLEX HOOK BELOW
1REVERSE SOLIDUS OVERLAY;1REVERSED COMMA ABOVE;1RIGHT ARROW ABOVE;3BELOW;2ARROWHEAD ABOVE
3AND DOWN ARROWHEAD BELOW;4UP ARROWHEAD BELOW;3BELOW;2HALF RING ABOVE;4BELOW;2HARPOON ABOVE
2PARENTHESIS ABOVE RIGHT;3BELOW RIGHT;2TACK BELOW;1RIGHTWARDS HARPOON WITH BARB DOWNWARDS
1RING ABOVE;2BELOW;2OVERLAY;1SEAGULL BELOW;1SHORT SOLIDUS OVERLAY;2STROKE OVERLAY
2VERTICAL LINE OVERLAY;1SNAKE BELOW;1SQUARE BELOW;2BRACKETS ABOVE
1STRONG CENTRALIZATION STROKE BELOW;1SUSPENSION MARK;1THREE DOTS ABOVE;1TILDE;2BELOW
2LEFT HALF BELOW;2OVERLAY;2RIGHT HALF BELOW;1TRIPLE ACUTE ACCENT;2DOT;2UNDERDOT;1TURNED COMMA ABOVE
1UP TACK ABOVE;3BELOW;1UPWARDS ARROW BELOW;1UR ABOVE;1US ABOVE;1VERTICAL LINE ABOVE;3BELOW;2TILDE
1WIDE BRIDGE ABOVE;2INVERTED BRIDGE BELOW;1WIGGLY LINE BELOW;1X ABOVE;2BELOW;1X-X BELOW
1ZIGZAG ABOVE;2BELOW;0COMET;0COMMA;0COMMERCIAL AT;1MINUS SIGN;0COMPASS;0COMPLEMENT
0COMPOSITION SYMBOL;0COMPRESSION;0CONFETTI BALL;0CONFOUNDED FACE;0CONFUSED FACE
0CONGRUENT WITH DOT ABOVE;0CONICAL TAPER;0CONJUNCTION;0CONSTRUCTION SIGN;1WORKER
0CONTAINS AS MEMBER;2NORMAL SUBGROUP;4OR EQUAL TO;1WITH LONG HORIZONTAL STROKE;2OVERBAR
2VERTICAL BAR AT END OF HORIZONTAL STROKE;0CONTINUOUS UNDERLINE SYMBOL;0CONTOUR INTEGRAL
0CONTROL KNOBS;1SEQUENCE INTRODUCER;0CONVENIENCE STORE;0COOKED RICE;0COOKIE;0COOKING
0COPTIC CAPITAL LETTER AKHMIMIC KHEI;3ALFA;3BOHAIRIC KHEI;3CROSSED SHEI;3CRYPTOGRAMMIC EIE;4GANGIA
4NI;4SHEI;3DALDA;3DEI;3DIALECT-P ALEF;4HORI;4KAPA;4NI;3EIE;3FEI;3FI;3GAMMA;3GANGIA;3HATE;3HORI
3IAUDA;3KAPA;3KHEI;3KHI;3KSI;3L-SHAPED HA;3LAULA;3MI;3NI;3O;3OLD COPTIC AIN;5DJA;5ESH;5GANGIA;5HA
5HAT;5HEI;5HORI;5OOU;5SHEI;5SHIMA;4NUBIAN NGI;5NYI;5SHIMA;5WAU;3OOU;3PI;3PSI;3RO;3SAMPI;3SHEI
3SHIMA;3SIMA;3SOU;3TAU;3THETHE;3UA;3VIDA;3ZATA;1COMBINING NI ABOVE;2SPIRITUS ASPER;3LENIS
1EPACT DIGIT EIGHT;3FIVE;3FOUR;3NINE;3ONE;3SEVEN;3SIX;3THREE;3TWO;2NUMBER EIGHT HUNDRED;3EIGHTY
3FIFTY;3FIVE HUNDRED;3FORTY;3FOUR HUNDRED;3NINE HUNDRED;3NINETY;3ONE HUNDRED;3SEVEN HUNDRED
3SEVENTY;3SIX HUNDRED;3SIXTY;3TEN;3THIRTY;3THREE HUNDRED;3TWENTY;3TWO HUNDRED;2THOUSANDS MARK
1FRACTION ONE HALF;1FULL STOP;1MORPHOLOGICAL DIVIDER;1OLD NUBIAN DIRECT QUESTION MARK;3FULL STOP
3INDIRECT QUESTION MARK;3VERSE DIVIDER;1SMALL LETTER AKHMIMIC KHEI;3ALFA;3BOHAIRIC KHEI
3CROSSED SHEI;3CRYPTOGRAMMIC EIE;4GANGIA;4NI;4SHEI;3DALDA;3DEI;3DIALECT-P ALEF;4HORI;4KAPA;4NI;3EIE
3FEI;3FI;3GAMMA;3GANGIA;3HATE;3HORI;3IAUDA;3KAPA;3KHEI;3KHI;3KSI;3L-SHAPED HA;3LAULA;3MI;3NI;3O
3OLD COPTIC AIN;5DJA;5ESH;5GANGIA;5HA;5HAT;5HEI;5HORI;5OOU;5SHEI;5SHIMA;4NUBIAN NGI;5NYI;5SHIMA
5WAU;3OOU;3PI;3PSI;3RO;3SAMPI;3SHEI;3SHIMA;3SIMA;3SOU;3TAU;3THETHE;3UA;3VIDA;3ZATA;1SYMBOL KAI
2KHI RO;2MI RO;2PI RO;2SHIMA SIMA;2STAUROS;2TAU RO;0COPYLEFT SYMBOL;0COPYRIGHT SIGN;0CORAL
0CORNISH VERSE DIVIDER;0CORRESPONDS TO;0COUCH AND LAMP;0COUNTERBORE;0COUNTERSINK
0COUNTING ROD TENS DIGIT EIGHT;4FIVE;4FOUR;4NINE;4ONE;4SEVEN;4SIX;4THREE;4TWO;2UNIT DIGIT EIGHT
4FIVE;4FOUR;4NINE;4ONE;4SEVEN;4SIX;4THREE;4TWO;0COUPLE WITH HEART;0COW;1FACE;0CR;0CRAB;0CREDIT CARD
0CRESCENT MOON;0CRICKET;1BAT AND BALL;0CROCODILE;0CROISSANT;0CROSS MARK;1OF JERUSALEM;2LORRAINE
1PATTY WITH LEFT CROSSBAR;3RIGHT CROSSBAR;1POMMEE;2WITH HALF-CIRCLE BELOW;0CROSSED FLAGS
1NEGATIVE SQUARED LATIN CAPITAL LETTER P;1SWORDS;0CROSSING LANES;0CROWN;0CRUTCH;0CRUZEIRO SIGN
0CRYING CAT FACE;1FACE;0CRYSTAL BALL;0CSI;0CUBE ROOT;0CUCUMBER;0CUNEIFORM NUMERIC SIGN EIGHT ASH
4DISH;4GESH2;4SHAR2;4U;5VARIANT FORM;4VARIANT FORM USSU;6USSU3;3ELAMITE FIFTY;4FORTY;4ONE THIRD
4TWO THIRDS;3FIVE ASH;5TENU;4BAN2;5VARIANT FORM;4BURU;4DISH;4GESH2;4GESHU;4SHAR2;4SHARU
4SIXTHS DISH;4U;5VARIANT FORM;3FOUR ASH;5TENU;4BAN2;5VARIANT FORM;4BURU;4DISH;4GESH2;4GESHU;4SHAR2
4SHARU;4U;5VARIANT FORM;4VARIANT FORM LIMMU;7A;7B;6LIMMU4;3NIGIDAESH;3NIGIDAMIN;3NINE ASH;4DISH
4GESH2;4SHAR2;4U;5VARIANT FORM;4VARIANT FORM ILIMMU;7A;6ILIMMU3;6ILIMMU4;3OLD ASSYRIAN ONE QUARTER
6SIXTH;3ONE BAN2;4BURU;4EIGHTH ASH;4ESHE3;4GESH2;4GESHU;4HALF GUR;4QUARTER ASH;5GUR;4SHARU
4THIRD DISH;5VARIANT FORM A;3SEVEN ASH;4DISH;4GESH2;4SHAR2;4U;5VARIANT FORM;4VARIANT FORM IMIN A;7B
6IMIN3;3SHAR2 TIMES GAL PLUS DISH;7MIN;3SIX ASH;5TENU;4DISH;4GESH2;4SHAR2;4U;5VARIANT FORM
4VARIANT FORM ASH9;3THREE ASH;5TENU;4BAN2;4BURU;5VARIANT FORM;4DISH;4GESH2;4GESHU;4SHAR2
5VARIANT FORM;4SHARU;5VARIANT FORM;4VARIANT FORM ESH16;6ESH21;3TWO ASH;5TENU;4BAN2;4BURU;4ESHE3
4GESH2;4GESHU;4SHAR2;4SHARU;4THIRDS DISH;5VARIANT FORM A;1PUNCTUATION SIGN DIAGONAL COLON
4QUADCOLON;4TRICOLON;3OLD ASSYRIAN WORD DIVIDER;3VERTICAL COLON;1SIGN A;3TIMES A;4BAD;4GAN2 TENU
4HA;4IGI;4LAGAR GUNU;4MUSH;4SAG;2A2;2AB;3GUNU;3TIMES ASH2;4DUN3 GUNU;4GAL;4GAN2 TENU;4HA;4IGI GUNU
4IMIN;4LAGAB;4NUN;5TENU;4SHESH;4SHU2;4U PLUS U PLUS U;2AB2;3TIMES A;4BALAG;4GAN2 TENU;4ME PLUS EN
4SHA3;4TAK4;2AD;3TIMES ESH2;2AK;3TIMES ERIN2;4SHITA PLUS GISH;2AL;3TIMES AL;4DIM2;4GISH;4HA;4KAD3
4KI;4SHE;4USH;2ALAN;2ALEPH;2AMAR;3TIMES KUG;4SHE;2AN;3OVER AN;3PLUS NAGA OPPOSING AN PLUS NAGA
5SQUARED;3THREE TIMES;2ANSHE;2APIN;2ARAD;3TIMES KUR;2ARKAB;2ASAL2;2ASH;3KABA TENU
3OVER ASH OVER ASH;7CROSSING ASH OVER ASH OVER ASH;5TUG2 OVER TUG2 TUG2 OVER TUG2 PAP;3ZIDA TENU
2ASH2;2ASHGAB;2BA;2BAD;3TIMES DISH TENU;2BAG3;2BAHAR2;3TIMES AB2;4NI;4ZA;2BAL;3OVER BAL;2BALAG;2BAR
2BARA2;2BI;3TIMES A;4GAR;4IGI GUNU;2BU;3CROSSING BU;3OVER BU AB;5TIMES NA2;5UN;2BULUG;3OVER BULUG
2BUR;2BUR2;2DA;3TIMES TAK4;2DAG;3KISIM5 TIMES A PLUS MASH;5AMAR;5BALAG;5BI;5GA;6PLUS MASH;5GI;5GIR2
5GUD;5HA;5IR;6PLUS LU;5KAK;5LA;5LU;6PLUS MASH2;5LUM;5NE;5PAP PLUS PAP;5SI;5TAK4;5U2 PLUS GIR2;7MASH
5USH;3TIMES KUR;2DAG3;2DAM;2DAR;2DARA3;2DARA4;2DI;2DIB;2DIM;3TIMES IGI;4SHE;4U U U;2DIM2;3TIMES UD
2DIN;3KASKAL U GUNU DISH;2DISH;3PLUS SHU;2DU;3GUNU;3OVER DU;3SHESHIG;2DUB;3TIMES ESH2;4SHE;2DUB2
2DUG;3TIMES ANSHE;4ASH;5AT LEFT;4DIN;4DUN;4ERIN2;4GA;4GI;4GIR2 GUNU;4GISH;4HA;4HI;4IGI GUNU;4KASKAL
4KUR;4KUSHU2;5PLUS KASKAL;4LAK-020;4LAM;5TIMES KUR;4LUH PLUS GISH;4MASH;4MES;4MI;4NI;4PI;4SHE
4SI GUNU;2DUGUD;2DUH;2DUN;2DUN3;3GUNU;4GUNU;2DUN4;2DUR2;2E;3OVER E NUN OVER NUN;3TIMES PAP;2E2
3TIMES A PLUS HA PLUS DA;4GAR;4KUR;4MI;4PAP;4SAL;4SHE;4U;2EDIN;2EGIR;2EL;2EN;3CROSSING EN
3OPPOSING EN;3SQUARED;3TIMES GAN2;5TENU;4ME;2EREN;2ERIN2;3X;2ESH2;3CROSSING ESH2;2EZEN
3SHESHIG TIMES ASH;5HI;5IGI GUNU;5LA;5LAL;5ME;5MES;5SU;3TIMES A;5PLUS LAL;7TIMES LAL;4AN;4BAD
4DUN3 GUNU;6GUNU;4GUD;4HA;5GUNU;4IGI GUNU;4KASKAL;5SQUARED;4KU3;4LA;4LAL TIMES LAL;4LI;4LU;4SHE;4SU
4U2;4UD;2GA;3GUNU;2GA2;3OVER GA2;3TIMES A PLUS DA PLUS HA;6HA;6IGI;4AB2 TENU PLUS TAB;4AN
5PLUS KAK PLUS A;4ASH;4ASH2;5PLUS GAL;4BAD;4BAHAR2;4BAR PLUS RA;4BUR;5PLUS RA;4DA;4DI;4DIM GUNU
5TIMES SHE;4DUB;4DUG TIMES IGI GUNU;6KASKAL;4EL;5PLUS LA;4EN;5TIMES GAN2 TENU;4EREN;4GA;4GAN2 TENU
4GAR;5PLUS DI;6NE;4GI;4GI4;5PLUS A;4GIR2 PLUS SU;4HA PLUS A;6LU PLUS ESH2;4HAL;5PLUS LA;4HI PLUS LI
4HUB2;4IGI GUNU;4ISH PLUS HU PLUS ASH;4KAK;4KASKAL;4KID;5PLUS LAL;4KU3 PLUS AN;4KUSHU2 PLUS KASKAL
4LA;4LAM;5TIMES KUR;4LUH;4ME PLUS EN;4MI;4MUSH;4NE;5PLUS E2;6GI;4NUN;5OVER NUN;4PA;4SAL;4SAR;4SHE
5PLUS TUR;4SHID;4SHIM;4SUM;4TAK4;4U;4UD;5PLUS DU;4ZIZ2;2GABA;3CROSSING GABA;3ROTATED NINETY DEGREES
2GAD;3OVER GAD GAR OVER GAR;2GAL;3GAD OVER GAD GAR OVER GAR;2GALAM;2GAM;2GAN;2GAN2;3CROSSING GAN2
3OVER GAN2;3TENU;2GAR;2GAR3;2GASHAN;2GE22;2GESHTIN;3TIMES KUR;4U;2GI;3CROSSING GI;3TIMES E;4U;2GI4
3CROSSING GI4;3OVER GI4;2GIDIM;2GIG;2GIR2;3GUNU;2GIR3;3TIMES A PLUS IGI;4GAN2 TENU;4IGI
4LU PLUS IGI;4PA;2GISAL;2GISH;3CROSSING GISH;3TENU;3TIMES BAD;4GISH CROSSING GISH;4TAK4;2GU
3CROSSING GU;2GU2;3GUNU;3TIMES IGI GUNU;4KAK;5TIMES IGI GUNU;4NUN;4SAL PLUS TUG2;2GUD
3OVER GUD LUGAL;3PLUS GISH TIMES TAK4;3TIMES A PLUS KUR;4KUR;2GUL;2GUM;3TIMES SHE;2GUR;2GUR7;2GURUN
2GURUSH;2HA;3GUNU;3TENU;4GUNU;2HAL;2HI;3TIMES ASH;5OVER HI TIMES ASH;4ASH2;4BAD;4DISH;4GAD;4KIN
4NUN;4SHE;4U;2HU;2HUB2;3TIMES AN;4HAL;4KASKAL;4LISH;4UD;2HUL2;2HUSH;2I;3A;2IB;2IDIM;3OVER IDIM BUR
5SQUARED;2IG;2IGI;3DIB;3GUNU;3OVER IGI SHIR OVER SHIR UD OVER UD;3RI;2IL;3TIMES GAN2 TENU;2IL2;2IM
3CROSSING IM;3OPPOSING IM;3SQUARED;3TIMES TAK4;2IMIN;2IN;2IR;2ISH;2KA;3TIMES A;4AD;5PLUS KU3;4ANSHE
4ASH2;4ASH3;4BAD;4BALAG;4BAR;4BI;4BU;4ERIN2;4ESH2;4GA;4GAL;4GAN2 TENU;4GAR;5PLUS SHA3 PLUS A;4GI
4GIR2;4GISH;5CROSSING GISH;5PLUS SAR;4GU;4GUD;4GUR7;4HI TIMES ASH2;4IGI;4IM;4KA;4KAK;4KI;4KID;4LI
4LU;4LUM;4ME;5PLUS DU;6GI;6TE;4MI;5PLUS NUNUZ;4NE;4NUN;4PA;4PI;4RU;4SA;4SAR;4SHA;4SHE;4SHID;4SHU
4SHUL;4SIG;4SUHUR;4TAR;4TU;4U;5U U;4U2;4UD;4UMUM TIMES PA;4UR;4UR2;4USH;4ZI;2KA2;3CROSSING KA2;2KAB
2KAD2;2KAD3;2KAD4;2KAD5;3OVER KAD5;2KAK;3TIMES IGI GUNU;2KAL;3CROSSING KAL;3TIMES BAD;2KAM2;2KAM4
2KAP ELAMITE;2KASKAL;3LAGAB TIMES U OVER LAGAB TIMES U
3OVER KASKAL LAGAB TIMES U OVER LAGAB TIMES U;2KESH2;2KI;3TIMES BAD;4U;4UD;2KID;2KIN;2KISAL;2KISH
2KISIM5;3OVER KISIM5;2KU;3OVER HI TIMES ASH2 KU OVER HI TIMES ASH2;2KU3;2KU4;3VARIANT FORM;2KU7
2KUL;3GUNU;2KUN;2KUR;3OPPOSING KUR;2KUSHU2;2KWU318;2LA;2LAGAB;3SQUARED;3TIMES A;5PLUS DA PLUS HA
6GAR;6LAL;4AL;4AN;4ASH ZIDA TENU;4BAD;4BI;4DAR;4EN;4GA;4GAR;4GI;4GUD;5PLUS GUD;4HA;4HAL
4HI TIMES NUN;4IGI GUNU;4IM;5PLUS HA;6LU;4KI;4KIN;4KU3;4KUL;5PLUS HI PLUS A;4LAGAB;4LISH;4LU;4LUL
4ME;5PLUS EN;4MUSH;4NE;4SHE PLUS SUM;4SHITA PLUS GISH PLUS ERIN2;7TENU;4SHU2;5PLUS SHU2;4SUM;4TAG
4TAK4;4TE PLUS A PLUS SU PLUS NA;4U;5PLUS A;6U PLUS U;4U2 PLUS ASH;4UD;4USH;4ZU OVER ZU;2LAGAR
3GUNU;4OVER LAGAR GUNU SHE;3TIMES SHE;5PLUS SUM;2LAHSHU;2LAK-003;2LAK-021;2LAK-025;2LAK-030
2LAK-050;2LAK-051;2LAK-062;2LAK-079 OVER LAK-079 GUNU;2LAK-080;2LAK-081 OVER LAK-081;2LAK-092
2LAK-130;2LAK-142;2LAK-210;2LAK-219;2LAK-220;2LAK-225;2LAK-228;2LAK-238;2LAK-265;2LAK-266;2LAK-343
2LAK-347;2LAK-348;2LAK-383;2LAK-384;2LAK-390;2LAK-441;2LAK-449;3TIMES GU;4IGI;4PAP PLUS LU3
6PAP PLUS LU3;4U2 PLUS BA;2LAK-450;2LAK-457;2LAK-470;2LAK-483;2LAK-490;2LAK-492;2LAK-493;2LAK-495
2LAK-550;2LAK-608;2LAK-617;3TIMES ASH;4BAD;4DUN3 GUNU GUNU;4KU3;4LA;4TAR;4TE;4U2;4UD;4URUDA
2LAK-636;2LAK-648;3TIMES DUB;4GA;4IGI;5GUNU;4NI;4PAP PLUS PAP PLUS LU3;4SHESH PLUS KI;4UD;4URUDA
2LAK-724;2LAK-749;2LAL;3TIMES LAL;2LAM;3TIMES KUR;5PLUS RU;2LI;2LIL;2LIMMU2;2LISH;2LU;3TIMES BAD
2LU2;3CROSSING LU2;3GUNU TIMES ASH;3OPPOSING LU2;3SHESHIG;4TIMES BAD;3SQUARED;3TENU;3TIMES AL;4BAD
4DISH;4ESH2;5PLUS LAL;5TENU;4GAN2 TENU;4HAL;4HI TIMES BAD;4IM;4KAD2;4KAD3;5PLUS ASH;4KI
4LA PLUS ASH;4LAGAB;4ME PLUS EN;4NE;4NU;4PAP;5PLUS PAP PLUS LU3;4SHU;4SI PLUS ASH;4SIK2 PLUS BU
4TAK4;4TUG2;2LU3;2LUGAL;3OPPOSING LUGAL;3OVER LUGAL;3SHESHIG;2LUH;2LUL;2LUM;3OVER LUM;5GAR OVER GAR
2MA;3GUNU;3TIMES TAK4;2MA2;2MAH;2MAR;2MASH;2MASH2;2ME;2MES;2MESH;2MI;3PLUS ZA7;2MIN;2MU;3OVER MU
2MUG;3GUNU;2MUNSUB;2MURGU2;2MUSH;3CROSSING MUSH;3OVER MUSH;5TIMES A PLUS NA;6GA;6KAK;3TIMES A;4KUR
4ZA;2MUSH3;3GUNU;3TIMES A;5PLUS DI;4DI;4ZA;2NA;2NA2;2NA4;2NAGA;3INVERTED;3OPPOSING NAGA
3TIMES SHU TENU;2NAGAR;2NAM;3NUTILLU;2NAM2;2NE;3SHESHIG;3TIMES A;4UD;2NI;3TIMES E;2NI2;2NIM
3TIMES GAN2 TENU;4GAR PLUS GAN2 TENU;2NIN;2NIN9;2NINDA2;3TIMES AN;4ASH;5PLUS ASH;4BAL;4DIM GUNU;4GI
4GISH;4GUD;4GUL;4HI;4KESH2;4LAK-050;4MASH;4ME PLUS GAN2 TENU;4NE;4NUN;4PAP PLUS PAP;4SHE;5PLUS A AN
6ASH;7PLUS ASH;4U;5PLUS U;4U2 PLUS ASH;4URUDA;4USH;2NISAG;2NU;2NU11;3OVER NU11 BUR OVER BUR
3ROTATED NINETY DEGREES;3TENU;2NUN;3CROSSING NUN;5LAGAR OVER LAGAR;3LAGAR TIMES GAR;5MASH;5SAL
6OVER NUN LAGAR TIMES SAL;5USH;3OVER NUN;3TENU;2NUNUZ;3AB2 TIMES ASHGAB;5BI;5DUG;5GUD;5IGI GUNU
5KAD3;5LA;5NE;5SILA3;5U2;3KISIM5 TIMES BI;6U;2PA;2PAD;2PAN;2PAP;2PESH2;3ASTERISK;2PI;3CROSSING PI
3TIMES A;4AB;4BI;4BU;4E;4I;4IB;4U;4U2;2PIR2;2PIRIG;3OPPOSING PIRIG;3TIMES KAL;4UD;4ZA;2RA;2RAB;2RI
2RU;2SA;2SAG;3GUNU;4TIMES HA;3NUTILLU;3OVER SAG;3TIMES A;4DU;4DUB;4EN;4HA;4IGI GUNU;4KAK;4KUR;4LUM
4MI;4NUN;4SAL;4SHE AT LEFT;4SHID;4TAB;4TAK4;4U2;4UB;4UM;4UR;4USH;2SAL;3LAGAB TIMES ASH2;2SANGA2
2SAR;2SHA;2SHA3;3TIMES A;4BAD;4GISH;4NE;4SHU2;4TUR;4U;5PLUS A;2SHA6;3TENU;2SHAB6;2SHAR2;2SHE;3HU
3OVER SHE;5GAD OVER GAD GAR OVER GAR;5TAB OVER TAB GAR OVER GAR;3PLUS HUB2;4NAM2;4SAR;2SHEG9;2SHEN
2SHESH;2SHESH2;2SHESHLAM;2SHID;3TIMES A;4IM;2SHIM;3TIMES A;4BAL;4BULUG;4DIN;4GAR;4IGI;5GUNU;4KUSHU2
4LUL;4MUG;4SAL;2SHINIG;2SHIR;3OVER SHIR BUR OVER BUR;3TENU;2SHITA;2SHU;3OVER INVERTED SHU;2SHU2
3PLUS DUG TIMES NI;4E2 TIMES AN;2SHUBUR;2SI;3GUNU;3TIMES TAK4;2SIG;2SIG4;3OVER SIG4 SHU2;2SIK2
2SILA3;2SU;3OVER SU;2SUD;2SUD2;2SUHUR;2SUM;2SUMASH;2SUR;2SUR9;2TA;3ASTERISK;3GUNU;3TIMES HI;4MI
2TAB;3OVER TAB NI OVER NI DISH OVER DISH;3SQUARED;2TAG;3TIMES BI;4GUD;4SHE;4SHU;4TUG2;4UD;2TAK4
3PLUS SAG;2TAR;2TE;3GUNU;2TI;3TENU;2TI2;2TIL;2TIR;3OVER TIR;5GAD OVER GAD GAR OVER GAR;3TIMES TAK4
2TU;2TUG2;2TUK;2TUM;3TIMES GAN2 TENU;4THREE DISH;2TUR;3OVER TUR ZA OVER ZA;2U;3GUD
3OVER U PA OVER PA GAR OVER GAR;5SUR OVER SUR;5U REVERSED OVER U REVERSED;3U;4U;2U2;2UB;2UD;3GUNU
3KUSHU2;3SHESHIG;4TIMES BAD;3TIMES BAD;4MI;4U PLUS U PLUS U;9GUNU;2UDUG;2UM;3TIMES LAGAB;4ME
5PLUS DA;4SHA3;4U;2UMBIN;2UMUM;3TIMES KASKAL;4PA;2UN;3GUNU;2UR;3CROSSING UR;3SHESHIG;2UR2;3INVERTED
3TIMES A PLUS HA;6NA;4AL;4HA;4NUN;4U2;5PLUS ASH;6BI;4UD;2UR4;2URI;2URI3;2URU;3TIMES A;4ASHGAB;4BAR
4DARA3;4DUN;4GA;4GAL;4GAN2 TENU;4GAR;4GU;4HA;4IGI;4IM;4ISH;4KI;4LAK-668;4LU3;4LUM;4MIN;4PA;4SHE
4SIG4;4TU;4U PLUS GUD;4UD;4URUDA;2URUDA;3TIMES U;2USH;3TIMES A;4KU;4KUR;4TAK4;2USH2;2USHUMX;2USHX
2UTUKI;2UZ3;3TIMES KASKAL;2UZU;2ZA;3SQUARED TIMES KUR;3TENU;2ZA7;2ZAG;2ZAMX;2ZE2;2ZI;3OVER ZI;2ZI3
2ZIB;3KABA TENU;2ZIG;2ZIZ2;2ZU;3OVER ZU PLUS SAR;2ZU5;3TIMES A;4THREE DISH TENU;2ZUBUR;2ZUM
0CUP ON BLACK SQUARE;1WITH STRAW;0CUPCAKE;0CUPIDO;0CURLING STONE;0CURLY BRACKET EXTENSION
1LOGICAL AND;2OR;1LOOP;0CURRENCY EXCHANGE;1SIGN;0CURRY AND RICE
0CURVED STEM PARAGRAPH SIGN ORNAMENT;0CUSTARD;0CUSTOMS;0CUT OF MEAT;0CYCLONE;0CYLINDRICITY
0CYPRIOT SYLLABLE A;2E;2I;2JA;2JO;2KA;2KE;2KI;2KO;2KU;2LA;2LE;2LI;2LO;2LU;2MA;2ME;2MI;2MO;2MU;2NA
2NE;2NI;2NO;2NU;2O;2PA;2PE;2PI;2PO;2PU;2RA;2RE;2RI;2RO;2RU;2SA;2SE;2SI;2SO;2SU;2TA;2TE;2TI;2TO;2TU
2U;2WA;2WE;2WI;2WO;2XA;2XE;2ZA;2ZO;0CYPRO-MINOAN SIGN CM001;2CM002;2CM004;2CM005;2CM006;2CM007
2CM008;2CM009;2CM010;2CM011;2CM012;2CM012B;2CM013;2CM015;2CM017;2CM019;2CM021;2CM023;2CM024;2CM025
2CM026;2CM027;2CM028;2CM029;2CM030;2CM033;2CM034;2CM035;2CM036;2CM037;2CM038;2CM039;2CM040;2CM041
2CM044;2CM046;2CM047;2CM049;2CM050;2CM051;2CM052;2CM053;2CM054;2CM055;2CM056;2CM058;2CM059;2CM060
2CM061;2CM062;2CM063;2CM064;2CM066;2CM067;2CM068;2CM069;2CM070;2CM071;2CM072;2CM073;2CM074;2CM075
2CM075B;2CM076;2CM078;2CM079;2CM080;2CM081;2CM082;2CM083;2CM084;2CM085;2CM086;2CM087;2CM088;2CM089
2CM090;2CM091;2CM092;2CM094;2CM095;2CM096;2CM097;2CM098;2CM099;2CM100;2CM101;2CM102;2CM103;2CM104
2CM105;2CM107;2CM108;2CM109;2CM110;2CM112;2CM114;2CM301;2CM302;0CYRILLIC CAPITAL LETTER A
4WITH BREVE;5DIAERESIS;3ABKHASIAN CHE;5WITH DESCENDER;4DZE;4HA;3ALEUT KA;3BARRED O;5WITH DIAERESIS
3BASHKIR KA;3BE;3BIG YUS;3BINOCULAR O;3BLENDED YUS;3BROAD OMEGA;3BYELORUSSIAN-UKRAINIAN I;3CCHE
3CHE;4WITH DESCENDER;5DIAERESIS;5VERTICAL STROKE;3CLOSED LITTLE YUS;3CROSSED O;3DCHE;3DE;3DJE
3DJERV;3DOUBLE MONOCULAR O;4O;3DWE;3DZE;3DZELO;3DZHE;3DZWE;3DZZE;3DZZHE;3E;4WITH DIAERESIS;3EF;3EL
4WITH DESCENDER;5HOOK;5MIDDLE HOOK;5TAIL;3EM;4WITH TAIL;3EN;4WITH DESCENDER;5HOOK;5LEFT HOOK
5MIDDLE HOOK;5TAIL;3ER;4WITH TICK;3ES;4WITH DESCENDER;3FITA;3GHE;4WITH DESCENDER;5MIDDLE HOOK
5STROKE;6AND HOOK;5UPTURN;3GJE;3HA;4WITH DESCENDER;5HOOK;5STROKE;3HARD SIGN;3HWE;3I;4WITH DIAERESIS
5GRAVE;5MACRON;3IE;4WITH BREVE;5GRAVE;3IO;3IOTA;3IOTIFIED A;4BIG YUS;4CLOSED LITTLE YUS;4E
4LITTLE YUS;4YAT;3IZHITSA;4WITH DOUBLE GRAVE ACCENT;3JE;3KA;4WITH DESCENDER;5HOOK;5STROKE
5VERTICAL STROKE;3KHAKASSIAN CHE;3KJE;3KOMI DE;4DJE;4DZJE;4LJE;4NJE;4SJE;4TJE;4ZJE;3KOPPA;3KSI;3LHA
3LITTLE YUS;3LJE;3MONOCULAR O;3MONOGRAPH UK;3NEUTRAL YER;3NJE;3O;4WITH DIAERESIS;3OMEGA;4WITH TITLO
3OT;3PE;4WITH DESCENDER;5MIDDLE HOOK;3PSI;3QA;3REVERSED DZE;4TSE;4YU;4ZE;3RHA;3ROUND OMEGA;3SCHWA
4WITH DIAERESIS;3SEMISOFT SIGN;3SHA;3SHCHA;3SHHA;4WITH DESCENDER;3SHORT I;5WITH TAIL;4U;3SHWE
3SOFT DE;4EL;4EM;4SIGN;3STRAIGHT U;5WITH STROKE;3TCHE;3TE;4WITH DESCENDER;5MIDDLE HOOK;3TSE;3TSHE
3TSSE;3TSWE;3TWE;3U;4WITH DIAERESIS;5DOUBLE ACUTE;5MACRON;3UK;3UKRAINIAN IE;3VE;3WE;3YA;3YAE;3YAT
3YERU;4WITH BACK YER;5DIAERESIS;3YI;3YN;3YU;3ZE;4WITH DESCENDER;5DIAERESIS;3ZEMLYA;3ZHE;4WITH BREVE
5DESCENDER;5DIAERESIS;3ZHWE;2LIGATURE A IE;3EN GHE;3TE TSE;1KAVYKA;1LETTER MULTIOCULAR O;2PALOCHKA
2SMALL CAPITAL EL;1PAYEROK;1SMALL LETTER A;4WITH BREVE;5DIAERESIS;3ABKHASIAN CHE;5WITH DESCENDER
4DZE;4HA;3ALEUT KA;3BARRED O;5WITH DIAERESIS;3BASHKIR KA;3BE;3BIG YUS;3BINOCULAR O;3BLENDED YUS
3BROAD OMEGA;3BYELORUSSIAN-UKRAINIAN I;3CCHE;3CHE;4WITH DESCENDER;5DIAERESIS;5VERTICAL STROKE
3CLOSED LITTLE YUS;3CROSSED O;3DCHE;3DE;3DJE;3DJERV;3DOUBLE MONOCULAR O;4O;3DWE;3DZE;3DZELO;3DZHE
3DZWE;3DZZE;3DZZHE;3E;4WITH DIAERESIS;3EF;3EL;4WITH DESCENDER;5HOOK;5MIDDLE HOOK;5TAIL;3EM
4WITH TAIL;3EN;4WITH DESCENDER;5HOOK;5LEFT HOOK;5MIDDLE HOOK;5TAIL;3ER;4WITH TICK;3ES
4WITH DESCENDER;3FITA;3GHE;4WITH DESCENDER;5MIDDLE HOOK;5STROKE;6AND HOOK;5UPTURN;3GJE;3HA
4WITH DESCENDER;5HOOK;5STROKE;3HARD SIGN;3HWE;3I;4WITH DIAERESIS;5GRAVE;5MACRON;3IE;4WITH BREVE
5GRAVE;3IO;3IOTA;3IOTIFIED A;4BIG YUS;4CLOSED LITTLE YUS;4E;4LITTLE YUS;4YAT;3IZHITSA
4WITH DOUBLE GRAVE ACCENT;3JE;3KA;4WITH DESCENDER;5HOOK;5STROKE;5VERTICAL STROKE;3KHAKASSIAN CHE
3KJE;3KOMI DE;4DJE;4DZJE;4LJE;4NJE;4SJE;4TJE;4ZJE;3KOPPA;3KSI;3LHA;3LITTLE YUS;3LJE;3LONG-LEGGED DE
3MONOCULAR O;3MONOGRAPH UK;3NARROW O;3NEUTRAL YER;3NJE;3O;4WITH DIAERESIS;3OMEGA;4WITH TITLO;3OT
3PALOCHKA;3PE;4WITH DESCENDER;5MIDDLE HOOK;3PSI;3QA;3REVERSED DZE;4TSE;4YU;4ZE;3RHA;3ROUND OMEGA
3ROUNDED VE;3SCHWA;4WITH DIAERESIS;3SEMISOFT SIGN;3SHA;3SHCHA;3SHHA;4WITH DESCENDER;3SHORT I
5WITH TAIL;4U;3SHWE;3SOFT DE;4EL;4EM;4SIGN;3STRAIGHT U;5WITH STROKE;3TALL HARD SIGN;4TE;4YAT;3TCHE
3TE;4WITH DESCENDER;5MIDDLE HOOK;3THREE-LEGGED TE;3TSE;3TSHE;3TSSE;3TSWE;3TWE;3U;4WITH DIAERESIS
5DOUBLE ACUTE;5MACRON;3UK;3UKRAINIAN IE;3UNBLENDED UK;3VE;3WE;3WIDE ES;3YA;3YAE;3YAT;3YERU
4WITH BACK YER;5DIAERESIS;3YI;3YN;3YU;3ZE;4WITH DESCENDER;5DIAERESIS;3ZEMLYA;3ZHE;4WITH BREVE
5DESCENDER;5DIAERESIS;3ZHWE;2LIGATURE A IE;3EN GHE;3TE TSE;1THOUSANDS SIGN
"

end PciInventory.Text
