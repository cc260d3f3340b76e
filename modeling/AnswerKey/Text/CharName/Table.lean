namespace AnswerKey
namespace Text
namespace CharName

/-!
Names of characters, in the order of their code points.

Every entry starts with small letters, which say how many characters of the name before it are
dropped: `z` stands for twenty-five and is followed by another letter, any other letter for its place
in the alphabet counted from zero.  What follows is put behind the rest.  The code point is the next
one after that of the entry before, unless a semicolon and a number in front of the entry give
another distance.  Line ends count for nothing.  A stretch that many names share is abbreviated by one
character.
-/

/-- The stretches that are abbreviated. -/
def abbreviations : List (Char × String) :=
  [('!', "L LETTER "), ('#', " WITH "), ('$', "CAPITAL LETTER "), ('%', "AL"), ('&', "AR"),
    ('(', "IGHT"), (')', " FORM"), ('*', "IN"), ('+', "LE"), (',', "ER"), ('.', "AN"),
    ('/', " ARROW"), (':', "ON"), ('<', " S"), ('=', " ISOLATED FORM"), ('>', " ABOVE"),
    ('?', "SMALL LETTER "), ('@', "EN"), ('[', "D "), (']', "TI"), ('^', "WARDS"), ('_', "RE"),
    ('|', "HA"), ('~', " SIGN"), ('À', " BELOW"), ('Á', "DOUBLE"), ('Â', "LETTER "),
    ('Ã', " BRACKET"), ('Ä', " TRIANGLE-HEADE"), ('Å', "BLACK"), ('Æ', " SYMBOL"), ('Ç', "WHITE"),
    ('È', "POINTING "), ('É', "TROKE"), ('Ê', "HORIZONTAL"), ('Ë', "CIRCLE"), ('Ì', "MIDDLE "),
    ('Í', "THOUSAND"), ('Î', "LEFT "), ('Ï', "ALEF MAKSURA"), ('Ð', "CIRCUMFLEX"),
    ('Ñ', " HUNDRED"), ('Ò', "CAPITAL "), ('Ó', "HEAVY"), ('Ô', " AND "), ('Õ', " MARK"),
    ('Ö', "DIGIT ZERO"), ('×', "INITIAL FORM"), ('Ø', "VERTICAL"), ('Ù', "DOWN"), ('Ú', " TIMES "),
    ('Û', "FINAL FORM"), ('Ü', "WEST-CREE"), ('Ý', "FOUR"), ('Þ', "GEGRAMMENI"), ('ß', "DOT"),
    ('à', "HOOK"), ('á', "MALL "), ('â', "DIAERESIS"), ('ã', " EQUAL TO"), ('ä', "VOWEL SIGN "),
    ('å', " ROTATED TWO HUNDRED SEVENTY DEGREES"), ('æ', "WARDS HARPOON WITH BARB "),
    ('ç', " ROTATED NINETY DEGREES"), ('è', "GREATER-THAN"), ('é', "TRIANGLE"), ('ê', "ING "),
    ('ë', " PLUS "), ('ì', "MEDI"), ('í', " SQUARE"), ('î', "IEU"), ('ï', "TWO"), ('ð', "SIGN "),
    ('ñ', "RETROFLEX HOOK"), ('ò', "CROSS"), ('ó', "PERISPOMENI"), ('ô', "LESS-THAN"),
    ('õ', "TURNED "), ('ö', "LOWER "), ('÷', "MEEM"), ('ø', "PSILI AND "), ('ù', "DASIA AND "),
    ('ú', "PARENTHESIS"), ('û', "ACUTE"), ('ü', "VOCALIC R"), ('ý', "REVERSE"),
    ('þ', "EQUILATERAL ARROWHEAD"), ('ÿ', " OF "), ('Ā', "PUNCTUATION"), ('ā', "LEFT"),
    ('Ă', "HREE"), ('ă', "RIGHT "), ('Ą', "FULL STOP"), ('ą', "ORNAMENT"), ('Ć', "FACE"),
    ('ć', "POKED ASTERISK"), ('Ĉ', "TION MARK"), ('ĉ', "THUMB"), ('Ċ', "TH EAST"), ('ċ', "UPPER "),
    ('Č', " OVER"), ('č', "TORTOISE SHELL BRACKET"), ('Ď', "LOCK"), ('ď', "GRA"),
    ('Đ', " OPERATOR"), ('đ', "IVE"), ('Ē', "INVERTED "), ('ē', " DOTS"), ('Ĕ', "INDEX"),
    ('ĕ', "MACRON"), ('Ė', "YEH FINAL FORM"), ('ė', "NUMBER "), ('Ę', "HIGH "), ('ę', "HALF "),
    ('Ě', "TILDE"), ('ě', " WITH DESCENDER"), ('Ĝ', "ANUSVARA"), ('ĝ', "LETTER SMALL CAPITAL "),
    ('Ğ', " WITH STROKE"), ('ğ', "CANDRABINDU"), ('Ġ', "LOW "), ('ġ', "KIYEOK"),
    ('Ģ', " CHESS KNIGHT ROTATED "), ('ģ', " BAR"), ('Ĥ', "MEDIUM"), ('ĥ', "NORTH WEST"),
    ('Ħ', "HEAD"), ('ħ', "SIX"), ('Ĩ', "COMMA"), ('ĩ', "DIAGONAL"), ('Ī', "DIAMOND"), ('ī', "EVEN"),
    ('Ĭ', " WITH PALATAL HOOK"), ('ĭ', "DOUBLE "), ('Į', " POINTED BLACK STAR"),
    ('į', "RIGHTWARDS ARROW"), ('İ', " WITH DOT BELOW"), ('ı', " WITH JEEM"), ('Ĳ', "PSILON"),
    ('ĳ', "COMBINING "), ('Ĵ', "LITTLE"), ('ĵ', "MEDIAL FORM"), ('Ķ', "SIMPLIFIE"),
    ('ķ', "FLOORPLANE"), ('ĸ', "NINE"), ('Ĺ', "GLOTTAL STOP"), ('ĺ', "CLOCKWISE"),
    ('Ļ', "ALTERNAT"), ('ļ', " WITH CEDILLA"), ('Ľ', "ASH"), ('ľ', "VISARGA"), ('Ŀ', "IGATURE "),
    ('ŀ', "MODIFIER"), ('Ł', "SHORT"), ('ł', " ACCENT"), ('Ń', "GRAVE"), ('ń', "CRIPT "),
    ('Ņ', "QUOTATION MARK"), ('ņ', " QUARTER"), ('Ň', "EXCLAMATION MARK"), ('ň', "TRIANGULAR "),
    ('ŉ', "SIOS"), ('Ŋ', "GRAPH"), ('ŋ', "LARGE"), ('Ō', "IC "), ('ō', " NOT"), ('Ŏ', "EQUAL"),
    ('ŏ', "YENISEI "), ('Ő', "TAIL"), ('ő', "TRIPLE"), ('Œ', "WARDS TRIANGLE-HEADED ARROW"),
    ('œ', "BOTTOM"), ('Ŕ', " AND YPOGEGRAMMENI"), ('ŕ', "CENTRE"), ('Ŗ', " SINGLE"), ('ŗ', "VARIA"),
    ('Ř', "WHITE "), ('ř', " WITH DOT ABOVE"), ('Ś', " WITH EXTENDED ARABIC-INDIC DIGIT "),
    ('ś', "OLD COPTIC"), ('Ŝ', "LINE"), ('ŝ', "SMALL "), ('Ş', " EQUIVALENT TO"), ('ş', "OPEN "),
    ('Š', "CLOSED "), ('š', "VIRAMA"), ('Ţ', "HIEU"), ('ţ', "LATIN SMALL LETTER "), ('Ť', "BELOW"),
    ('ť', "YANNA"), ('Ŧ', " GUNU"), ('ŧ', "ATION"), ('Ũ', "CHE"), ('ũ', "IDE"), ('Ū', "OXIA"),
    ('ū', "HITTING "), ('Ŭ', "SQUARE"), ('ŭ', "LONG "), ('Ů', "FIVE FINGERS SPREA"),
    ('ů', "EPARATOR"), ('Ű', "HIRTY"), ('ű', " HUNDRED "), ('Ų', "ONE EIGHTH BLOCK"),
    ('ų', "WALLPLANE"), ('Ŵ', "BLACK "), ('ŵ', "BREVE"), ('Ŷ', "PIEUP"), ('ŷ', "ORKHON "),
    ('Ÿ', "ANS-SERIF"), ('Ź', "MEEM INITIAL FORM"), ('ź', "TIKEUT"), ('Ż', "CORNER"),
    ('ż', " LETTER "), ('Ž', "PROSGEGRAMMENI"), ('ž', "LEFTWARDS"), ('ſ', "OMEGA"), ('ƀ', " SMALL"),
    ('Ɓ', "LEFT-STEM TONE BAR"), ('Ƃ', "FOR"), ('ƃ', "TO LOWER "), ('Ƅ', "HAH INITIAL FORM"),
    ('ƅ', "CURLY BRACKET"), ('Ɔ', "ALEF MAKSURA FINAL FORM"), ('Ƈ', "QUESTION MARK"),
    ('ƈ', " STROKE"), ('Ɖ', "THE"), ('Ɗ', "DIGIT ONE"), ('Ƌ', "RIGHTWARDS "), ('ƌ', "INTERSECTION"),
    ('ƍ', "ASTERISK"), ('Ǝ', " SOLIDUS"), ('Ə', "APRAANA "), ('Ɛ', " WITH HORN AND "),
    ('Ƒ', "UNDERBAR"), ('ƒ', " WITH DAGESH"), ('Ɠ', "OUN"), ('Ɣ', "ISH"), ('ƕ', "TED "),
    ('Ɩ', "PLUS"), ('Ɨ', "FRACTION ONE"), ('Ƙ', "OUBLE DANDA"), ('ƙ', " INDEX "), ('ƚ', "LAM"),
    ('ƛ', "TWO DOTS"), ('Ɯ', "THREE DOTS"), ('Ɲ', "CONSONANT SIGN "), ('ƞ', "FROM BAR"),
    ('Ɵ', "HEART"), ('Ơ', " WITH STROKE THROUGH DESCENDER"), ('ơ', "CHARACTER"),
    ('Ƣ', " VARIANT FORM"), ('ƣ', "WENTY"), ('Ƥ', "ETH"), ('ƥ', "TONE"), ('Ʀ', "COLON"),
    ('Ƨ', " THOUSAND"), ('ƨ', "ABBREVIATION SIGN"), ('Ʃ', " TO"), ('ƪ', " OF SPADES"),
    ('ƫ', " WITH CIRCUMFLEX AND "), ('Ƭ', "LOGICAL "), ('ƭ', "MOVEMENT"), ('Ʈ', "AMMA"),
    ('Ư', "LUNATE SIGMA SYMBOL"), ('ư', "SSANG"), ('Ʊ', "OUT"), ('Ʋ', "NORMAL SUBGROUP"),
    ('Ƴ', "VOICED SOUND MARK"), ('ƴ', "ACK"), ('Ƶ', "HEAVY "), ('ƶ', "LATIN "), ('Ʒ', "RAISED "),
    ('Ƹ', " EIGHTHS BLOCK"), ('ƹ', "NEUTRAL"), ('ƺ', "POVODNAYA"), ('ƻ', "NGA"), ('Ƽ', "QUADR"),
    ('ƽ', "CURVE"), ('ƾ', "-FIVE DEGREES"), ('ƿ', "MULTIPLICATION"), ('ǀ', " WITH CARON"),
    ('ǁ', "SHE"), ('ǂ', "IOTIFIED "), ('ǃ', "DOWNWARDS")]

/-- All characters that have a name of their own.  Ideographs and syllables that are named by rule
are left out. -/
def names : String :=
";33aSPACEfŇqŅoNUMB,~lDOLL&~lP,C@T~mAMP,S.DiPOSTROPHEkÎúqăúrƍiƖ~jĨfHYPH@-M*USmĄjSOLIDUShÖe:EdïcĂfÝdđ
eħcīfE(fĸkƦfSEMIƦjô~oŎS~lè~rƇnCOMM,CI% ATnƶ$AbBbCbDbEbFbGbHbIbJbKbLbMbNbObPbQbRbSbTbUbVbWbXbYbZ
vEFTíÃtýƎo(íÃuÐłrĠŜiŃłmţAbBbCbDbEbFbGbHbIbJbKbLbMbNbObPbQbRbSbTbUbVbWbXbYbZtEFT ƅsØ ŜnăƅtĚ
;34fNO-B_AK<PACEoĒŇzaC@T~jPƓD~kCURR@CY~nY@~iBROK@ģkSEC]:~mâjCOPYR(~oFEM**E ORD*% *DICATORzbā-Èĭ.G+ Ņ
zqNOT~iSOFT HYPH@l_GIST,ED~pĕgDEG_E~lƖ-M*US~pSUP,SńïcĂrûłmMICRO~kPILCROW~mÌßkCEDILLAhSUP,Sń:E
pMASCUŜ ORD*% *DICATORzcR(-Èĭ.G+ ŅzrVULG& ƗņhH%FiTĂņSzfĒƇwƶ$A#ŃfûfÐkĚfâjR*G>qEcCļoE#ŃfûfÐkâqI#ŃfûfÐ
kâqƤdN#ĚmO#ŃfûfÐkĚfâzmƿ~tƶ$OĞnU#ŃfûfÐkâqY#ûmTHORNu?SH&P<hA#ŃfûfÐkĚfâjR*G>qEcCļoE#ŃfûfÐkâqI#ŃfûfÐkâqƤ
dN#ĚmO#ŃfûfÐkĚfâzkDIVISI:~nţOĞnU#ŃfûfÐkâqY#ûmTHORNfY#âze$A#ĕzd?A#ĕzb$A#ŵzc?A#ŵza$A#OG:EKzd?A#OG:EK
zb$C#ûzc?C#ûza$C#Ðzh?C#Ðzf$Cřzg?Cřze$Cǀzc?Cǀza$Dǀzc?Dǀza$DĞzd?DĞzb$E#ĕzd?E#ĕzb$E#ŵzc?E#ŵza$Eřzg?Eř
ze$E#OG:EKzd?E#OG:EKzb$Eǀzc?Eǀza$G#Ðzh?G#Ðzf$G#ŵzc?G#ŵza$Gřzg?Gřze$Gļze?Gļzc$H#Ðzh?H#Ðzf$HĞzd?HĞ
zb$I#Ězc?I#Ěza$I#ĕzd?I#ĕzb$I#ŵzc?I#ŵza$I#OG:EKzd?I#OG:EKzb$Iřzg?ß+SS IwÒLĿIJtŝLĿIJr$J#Ðzh?J#Ðzf$Kļ
ze?KļnRAq$L#ûzc?L#ûza$Lļze?Lļzc$Lǀzc?Lǀza$L#Ìßzh?L#Ìßzf$LĞzd?LĞzb$N#ûzc?N#ûza$Nļze?Nļzc$Nǀzc?Nǀ
kP_CEDE[BY APOSTROPHEzm$@Gs?@Gq$O#ĕzd?O#ĕzb$O#ŵzc?O#ŵza$O#ĭûzj?O#ĭûzhÒLĿOEtŝLĿOEr$R#ûzc?R#ûza$Rļ
ze?Rļzc$Rǀzc?Rǀza$S#ûzc?S#ûza$S#Ðzh?S#Ðzf$Sļze?Sļzc$Sǀzc?Sǀza$Tļze?Tļzc$Tǀzc?Tǀza$TĞzd?TĞzb$U#Ě
zc?U#Ěza$U#ĕzd?U#ĕzb$U#ŵzc?U#ŵza$U#R*G>zh?U#R*G>zf$U#ĭûzj?U#ĭûzh$U#OG:EKzd?U#OG:EKzb$W#Ðzh?W#Ðzf$Y#Ð
zh?Y#Ðzf$Y#âqZ#ûzc?Z#ûza$Zřzg?Zřze$Zǀzc?ZǀmL:G<gBĞzb$B#àeTOPB&zd?B#TOPB&zb$ƥ<IXx?ƥ<IXv$şOgC#àzb?C#à
y$AFRIC. DjD#àeTOPB&zd?D#TOPB&nõDELTAza$ý[EkSCHWAfşEgF#àzb?F#ày$G#àkƮu?HVp$IOTAdĞnK#àzb?K#àlL#B&
jAMBDAĞzg$õMiN#Îàzg?N#ŭă+Gzj$O#ÌĚmHORNzb?O#HORNy$OIr?OIp$P#àzb?P#àyÂYRj$ƥ ïx?ƥ ïv$ESHsÂý[ESH LOOP
y?TĬzh$T#àzb?T#ày$T#ñvU#HORNzb?U#HORNy$UĲhV#àlY#àzb?Y#ày$ZĞzd?ZĞzb$EZHa ýDzc?EZH ýDiWITH ŐzbÂïĞ
w$ƥ Fđy?ƥ FđwÂĒĹĞziWYNNeD@T% CLICKmLAT,% CLICKn%VEOL& CLICKo_TROF+X CLICKw$DZǀm#?Zǀzw?DZǀzb$LJb#?J
zl?LJp$NJb#?Jzl?NJp$Aǀzc?Aǀza$Iǀzc?Iǀza$Oǀzc?Oǀza$Uǀzc?Uǀza$U#âÔĕzr?U#âÔĕzp$U#âÔûzq?U#âÔûzo$U#âÔC&:
zq?U#âÔC&:zo$U#âÔŃzq?U#âÔŃzbõEv$A#âÔĕzr?A#âÔĕzp$AřÔĕzr?AřÔĕzp$AE#ĕze?AE#ĕzc$GĞzd?GĞzb$Gǀzc?Gǀza$Kǀ
zc?Kǀza$O#OG:EKzd?O#OG:EKzb$O#OG:EKÔĕzo?O#OG:EKÔĕzm$EZHǀze?EZHǀoJǀza$DZb#?Zzl?DZp$G#ûzc?G#ûza$HWAIR
fWYNNeN#Ńzc?N#Ńza$A#R*G>Ôûzr?A#R*G>Ôûzp$AE#ûzd?AE#ûzb$OĞÔûzn?OĞÔûzl$A#ĭŃzj?A#ĭŃzh$A#Ēŵzl?A#Ēŵzj$E#ĭŃ
zj?E#ĭŃzh$E#Ēŵzl?E#Ēŵzj$I#ĭŃzj?I#ĭŃzh$I#Ēŵzl?I#Ēŵzj$O#ĭŃzj?O#ĭŃzh$O#Ēŵzl?O#Ēŵzj$R#ĭŃzj?R#ĭŃzh$R#Ēŵ
zl?R#Ēŵzj$U#ĭŃzj?U#ĭŃzh$U#Ēŵzl?U#Ēŵzj$S#ĨÀzi?S#ĨÀzg$T#ĨÀzi?T#ĨÀzg$YOGHt?YOGHr$Hǀzc?Hǀza$N#ŭă+G
zl?D#CURLy$OUr?OUp$Z#àzb?Z#ày$Ařzg?Ařze$Eļze?Eļzc$O#âÔĕzr?O#âÔĕzp$O#ĚÔĕzn?O#ĚÔĕzl$Ořzg?Ořze$OřÔĕ
zr?OřÔĕzp$Y#ĕzd?Y#ĕnL#CURLlN#CURLlT#CURLlß+SS JiB DIŊkQP DIŊx$AĞnCĞzd?CĞzb$L#B&kT#ĩƈzm?S#SWĽ Ő
rZ#SWĽ Őzf$Ĺzc?Ĺza$BĞnUģfõViEĞzd?EĞzb$JĞzd?JĞzb$ŝQ#à Őzm?Q#à Őze$RĞzd?RĞzb$YĞzd?YĞnõAi%P|fõ%P|mB#à
lşOgC#CURLlD#Őeàlý[EkSCHWAa#àpşEgý[şEa#àzaŠý[şEwß+SS JĞvG#àlSńGvĝGw?GƮfRAMS HORNjõHiH#àk@G#àoIĞmOTA
rĝIw?L#ÌĚmBELTeñuEZHeõMa#ŭ+GwM#àlN#ÎàjñzjĝNw?B&_[OvĝOEx?ŠſmPHIdõRa#ŭ+GiàsR#ŭ+GiŐeFƔàoEV,SE[R#FƔàzmĝR
bĒRzg?S#àlESHdß+SS JĞÔàzfSQUAT ý[ESHsESH#CURLnõTh#ñvUģeĲhV#àlõVbWbYvĝYw?Z#ñoCURLlEZHa#CURLzbÂĹ
mPH&YNGE% VOICE[FRICA]VEzcĒĹvST_TŨ[ClBILABI% CLICKoŝÒBw?ŠşEzbĝG#àlHw?J#òED-ŐtõKvĝLw?Q#àyÂĹĞyý[ĹĞ
zp?DZ DIŊjEZH DIŊlZ DIŊ#CURLuTS DIŊjESH DIŊlC DIŊ#CURLuF@G DIŊmLS DIŊjZ DIŊxÂBILABI% P,CUSSđ
rD@T% P,CUSSđzb?õH#FƔàaÔŐzzaŀ +TT,<áHa#àlJbRbõRa#àsÒĒRsWbYhPRIMEfĭPRIMEmõĨmAPOSTROPHEký[Ĩn( ęR*G
pÎęR*GoĹmý[Ĺvā/ĦoR(/ĦpUP/ĦmÙ/ĦoÐłziC&:fŀżØ ŜnĕgûłmŃłmĠØ ŜnĕgŃłmûłqňƦqęňƦvŕ[ăęR*GpÎęR*GwUP TƴhÙ TƴjƖ~
jM*US~zbŵfß>jR*G>kOG:EKgŝĚlĭûłtŀżRHO]C àlòłmŝGƮfLbSbXbý[ĹzcEXTRA-ĘƥģtĘƥģnMI[ƥģmĠƥģmEXTRA-Ġƥģ
sY* DEP&TêƥÕw.G DEP&TêƥÕyVOIC*GhUNASPIRATEDlĭAPOSTROPHErĠÙ/ĦoUP/Ħmā/ĦoR(/ĦnNGiÌŃłmĭŃłmûłzbĠĚjƷƦ
mBEG* Ęƥp@[ĘƥnBEG* Ġƥo@[ĠƥmǁLFfOP@<HELFkĠā/zfĳŃłmûłmÐłrĚfĕgOV,Ŝiŵfß>iIA,ESISjà>kR*G>kĭûłtC&:fØ Ŝ>
tĭØ Ŝ>tŃłtğlĒŵoõĨ>sĨ>lý[Ĩ>uĨ> R(rŃłÀsûłÀsÎTƴÀpăTƴÀqÎ.G+>qHORNeÎęR*GÀuUP TƴÀnÙ TƴÀpƖ~ÀpM*US~À
qP%AT%IZE[àÀwñÀußÀiIA,ESISÀpR*GÀkĨÀkEDILLAhOG:EKgØ ŜÀtBRIDGEÀmĒĭ&CHÀzbC&:ÀkIRCUMF+XłÀxŵÀlĒŵÀuĚÀlĕÀ
mĠŜiĭĠŜpĚČLAYnŁƈČLAYuL:GƈČLAYtŁƎČLAYvL:GƎČLAYuăęR*GÀvĒBRIDGEÀvŬÀlEAGULLÀnX>hØ ĚoÁČŜpŃ ƥÕpû ƥÕpG_EK ó
lKOR:IShDI%Y]KA T:OSpYPOÞtBRIDGE>mŎS~ÀrĭØ ŜÀzbÎ.G+ÀqNOT Ě>pHOMOƉ]C>q%MOSTã>vÎR(/ÀwUP^/ÀtŊEME JO*,
pR(/Ħ>vÎęR*G>uF,MATAhXÀhā/HEA[ŤuR(/HEA[Ťf.[UP/HEA[ŤzhęR*G>vß> R(pƍÀoĭR*GÀrZIGZAG>mĭŵÀgfĕaÀmĚfĒŵoįÀ
zeţAbEbIbObUbCbDbHbMbRbTbVbXzfG_EK $HETAt?HETAr$&C|IC<AMPIzd?&C|IC<AMPIzbNUM,%~möNUM,%~
s$PAMPHYLI. DIGƮzi?PAMPHYLI. DIGƮ;3zgYPOÞnŝý[ƯzdßƕƯzbý[ßƕƯzqƇn$YOT;5sT:OSfDI%Y]KA T:OSp$%P|#T:OS
zg.O TE+IAk$EĲ#T:OSrTA#T:OSoIOTA#T:OS;2pOMICR:#T:OS;2sUĲ#T:OSsſ#T:OSzg?IOTA#DI%Y]KAÔT:OSzr$%P|fBETA
eGƮfDELTAfEĲhZETAeETAdƉTAfIOTAeKAPPAfƚDAfMUcNUcXIcOMICR:hPIcRHO;2dSIGMAfTAUdUĲhPHIdCHIdPSIdſ
fIOTA#DI%Y]KAtUĲ#DI%Y]KAzm?%P|#T:OSqEĲ#T:OSrTA#T:OSoIOTA#T:OSpUĲ#DI%Y]KAÔT:OSzh%P|fBETAeGƮfDELTAfEĲ
hZETAeETAdƉTAfIOTAeKAPPAfƚDAfMUcNUcXIcOMICR:hPIcRHOdF*%<IGMAlSIGMAfTAUdUĲhPHIdCHIdPSIdſfIOTA#DI%Y]KA
tUĲ#DI%Y]KAwOMICR:#T:OSsUĲ#T:OSsſ#T:OSzeÒKAIÆsBETAÆlƉTAÆmUĲ#àÆlûÔàÆvâÔàÆznPHIÆjIÆjKAIÆkÂ&C|ŌKOPPA
u?&C|ŌKOPPAzb+TT,<]GMAn?S]GMAtÂDIGƮo?DIGƮuÂKOPPAm?KOPPAs+TT,<AMPIm?SAMPIyCOP]C $ǁIt?ǁIr$FEIs?FEI
q$KHEIt?KHEIr$HORIt?HORIr$G.GIAv?G.GIAt$SHIMAu?SHIMAs$DEIs?DEIxG_EK KAPPAÆmRHOÆkƯsETT, YOTkÒƉTAÆ
uLUNATE EĲÆvý[LUNATE EĲÆzf$SHOs?SHOqÒƯsETT,<.s?S.qRHOĞÆwÒý[ƯzdßƕƯzbý[ßƕƯzyCYRILLŌ$IE#ŃmOcDJEdGJE
dUKRA*I. IEmDZEdBYELORUSSI.-UKRA*I. IyYIcJEcLJEdNJEdTǁeKJEdI#ŃmŁ UhDZHEeAbBEcVEcGHEdDEcIEcZHEcEcI
bŁ IhKAcELbMbNcObPEc,bScTEcUbEFc|cTSEdŨdS|bC|fH&D~jY,UeSOFT~jEbYUbAr?AbBEcVEcGHEdDEcIEcZHEcEcIbŁ I
hKAcELbMbNcObPEc,bScTEcUbEFc|cTSEdŨdS|bC|fH&D~jY,UeSOFT~jEbYUbAcIE#ŃmOcDJEdGJEdUKRA*I. IEmDZE
dBYELORUSSI.-UKRA*I. IyYIcJEcLJEdNJEdTǁeKJEdI#ŃmŁ UhDZHEr$ſu?ſs$YATs?YATq$ǂEza?ǂEx$Ĵ YUSza?Ĵ YUS
x$ǂĴ YUSzj?ǂĴ YUSzh$BIG YUSw?BIG YUSu$ǂBIG YUSzg?ǂBIG YUSze$KSIs?KSIq$PSIs?PSIq$FITAt?FITAr$IZHITSA
w?IZHITSAu$IZHITSA#ĭŃłzw?IZHITSA#ĭŃłzu$UKr?UKp$RƓ[ſzb?RƓ[ſy$ſ#]TLOzg?ſ#]TLOze$OTr?OTp$KOPPAu?KOPPA
sÍS~wOMB*êCYRILLŌ]TLOfP%AT%IZŧoDASIA PNEUMATAoPSILI PNEUMATAnOKRY]EiHUND_[ÍS~wMILLI:S~zgYRILLŌ$Ł I#Ő
zh?Ł I#Őzf$SEMISOFT~zd?SEMISOFT~zb$,#]CKzc?,#]CKza$GHE#UPTURNzf?GHE#UPTURNzd$GHEĞzf?GHEĞzd$GHE#Ìà
zk?GHE#Ìàzi$ZHEězi?ZHEězg$ZEězh?ZEězf$KAězh?KAězf$KA#Øƈzn?KA#Øƈzl$KAĞze?KAĞzc$BĽKIR KAza?BĽKIR KA
x$@ězh?@ězfÒLĿ@ GHExŝLĿ@ GHEv$PE#Ìàzj?PE#Ìàzh$ABK|SI. |zc?ABK|SI. |za$ESězh?ESězf$TEězh?TEě
zf$STRA( Uza?STRA( Ux$STRA( UĞzm?STRA( UĞzk$|ězh?|ězfÒLĿTE TSExŝLĿTE TSEv$Ũězi?Ũězg$Ũ#Øƈzo?Ũ#Øƈ
zm$SH|t?SH|r$ABK|SI. Ũzd?ABK|SI. Ũzb$ABK|SI. Ũězs?ABK|SI. ŨězqÂP%OCHKAp$ZHE#ŵze?ZHE#ŵzc$KA#àzc?KA#à
za$EL#Őzc?EL#Őza$@#àzc?@#àza$@#Őzc?@#Őza$K|KASSI. Ũze?K|KASSI. Ũzc$EM#Őzc?EM#ŐmP%OCHKAv$A#ŵzc?A#ŵ
za$A#âzg?A#âzeÒLĿA IEvŝLĿA IEt$IE#ŵzd?IE#ŵzb$SCHWAu?SCHWAs$SCHWA#âzk?SCHWA#âzi$ZHE#âzi?ZHE#âzg$ZE#â
zh?ZE#âzf$ABK|SI. DZEzd?ABK|SI. DZEzb$I#ĕzd?I#ĕzb$I#âzg?I#âze$O#âzg?O#âze$B&_[Ox?B&_[Ov$B&_[O#â
zn?B&_[O#âzl$E#âzg?E#âze$U#ĕzd?U#ĕzb$U#âzg?U#âze$U#ĭûzj?U#ĭûzh$Ũ#âzi?Ũ#âzg$GHEězi?GHEězg$Y,U#â
zj?Y,U#âzh$GHEĞÔàzo?GHEĞÔàzm$|#àzc?|#àza$|Ğze?|Ğzc$KOMI DEw?KOMI DEu$KOMI DJEx?KOMI DJEv$KOMI ZJE
x?KOMI ZJEv$KOMI DZJEy?KOMI DZJEw$KOMI LJEx?KOMI LJEv$KOMI NJEx?KOMI NJEv$KOMI<JEx?KOMI<JEv$KOMI TJE
x?KOMI TJEv$ý[ZEzb?ý[ZEy$EL#àzc?EL#àza$L|s?L|q$R|s?R|q$YAEs?YAEq$QAr?QAp$WEr?WEp$%EUT KAx?%EUT KA
v$EL#Ìàzj?EL#Ìàzh$@#Ìàzj?@#Ìàzh$PEězh?PEězf$SH|ězj?SH|ězh$@#Îàzh?@#Îàzf$DZZHEu?DZZHEs$DŨt?DŨr$ELě
zh?ELě;2zo&M@I. $AYBdB@dGIMdDAcECHdZAcEHbTcTOcZHEd*IdLIWNeXEHdCAcK@dHOcJAcG|DeŨHeM@dYIcNOWdS|dVOcC|
dPEHdJHEHeRAcSEHdVEWd]WNe_HdCOcYIWNePIWReKEHdOHcFEH;3sŀżÎęR*GzfAPOSTROPHEkEMP|SISÕmXCƚAĈqĨfƇ
nABB_VIAĈr?õAYBkAYBdB@dGIMdDAcECHdZAcEHbTcTOcZHEd*IdLIWNeXEHdCAcK@dHOcJAcG|DeŨHeM@dYIcNOWdS|dVOcC|
dPEHdJHEHeRAcSEHdVEWd]WNe_HdCOcYIWNePIWReKEHdOHcFEHjĿECH YIWNqETT, YIĞzcĄjHYPH@
;3pR(-FACê&M@I. ET,NITY~zkā-FACê&M@I. ET,NITY~zj&M@I. DRAM~;2sHEB_Wł ETNAHTAhSEGOLeH%ǁ+TkZAQEF QAT.
fGADOLl]PE|g_VIAfZ&QAfPĽTAgYE]VfTEVIRfG,ESHa MUQDAMkS|YIMjQ&NEY P&AlTELIS| GEDOLAoPAZ,fATNAH |FUKH
mMUNAHeA|PAKHh,K|a KEFULAnD&GAfQADMAfTELIS| QET.AoY,AH B@ YOMOoO+dILUYeDEHIeZ*ORmM&K MASORA Ë
sPO*T<HEVAf|TAF<EGOLfPATAHfQAMATSlIRIQfTS,EfSEGOLfPATAHfQAMATSgHOƚa |S, Ƃ VAVtQUBUTSgDAGESH OR MAPIQ
pMETEGkUNCTUŧ MAQAFqO*T RAFEjUNCTUŧ PASEQqO*T<H* ßh* ßmUNCTUŧ<OF PASUQvM&K ċßjößoĀ NUN |FUK|
wO*T QAMATS QAT.;9sÂ%EFeBETdGIMELfD%ETfHEcVAVdZAY*fHETdTETdYODdF*% KAFjKAFdƚEDfF*% MEMjMEMdF*% NUN
jNUNdSAMEKHgAY*eF*% PEiPEcF*% TSADIlTSADIfQOFd_SHeSH*eTAV;5kYO[émLĿYIDDƔ ĭVAVkVAV YODhĭYODzcĀ G,ESH
dS|YIM;12zd&ABŌNUMB,~lSIGN<.AHkFOOTNOTEÕ,pSIGN<AF|dMVATlNUMB,Õ>s-*DŌCUBE ROOTjÝTH ROOTs RAY
e-*DŌP, MIL+~kT@Ƨ~ziFGH.I~lRABŌĨfDATE<ůoPOE]C V,SE~rðMISRAfS%L%LAHOU %AYHE WASS%ƚzd%AYHE ASS%ƚ
pRAHMATULLAH %AYHEqDI %LAHOU .HUrTAKH%LUSnáĘTAHdLĿ%EF#ƚ#YEHzgZA*jFAT|fDƮfKASRAkEMIƦjÂM&Kl@[OF TEXTÕ
qő ß ĀÕzcƇnÂKĽMIRI YEHm|MZAf%EF#MADDA>l|MZA>vWAW#|MZA>u%EF#|MZAÀvYEH#|MZA>u%EFeBEHdTEH M&BUTAicHEH
eJEEMe|HdK|HeD%dTH%e_HdZA*eSE@dHE@eADdDADdTAHdZAHdA*dG|*fKEHEH#ƛ>nĂēÀzcF&SI YEH#ĒVkƛ>nĂē>znTATWEEL
hÂFEHdQAFdKAFdƚd÷eNO:eHEHdWAWdÏmYEHkFAT|T.iDƮT.iKASRAT.iFAT|fDƮfKASRAfS|DDAfUKUNfMADDAH>m|MZA>fŤ
lSUBSń%EFoĒDƮoM&K NO: GHUNNAqZW&AKAYiVOWEL~<áV>n*V,TED<áV>wßÀuý[DƮoFAT|#ƛtWAVY |MZAÀr-*DŌÖe:EdïcĂfÝ
dđeħcīfE(fĸr P,C@T~mDECIM%<ůrÍS<ůtFđ PO*TED<T&rÂß+SS BEHdQAFlSUP,Sń%EFq%EF WASLAeITH WAVY |MZA>fŤ
zbĘ|MZAa %EFeWAWoU#|MZA>sĘ|MZA YEHoTTEHaEHgBEEHeTEH#R*GeƜ> ǃzkPEHdTEHEHfBEHEHf|H#|MZA>lƛ Ø>zhNYEH
eDYEHe|H#Ɯ>zaTŨHaEHhDD%d%#R*GeßÀa .D<áTAHzfH%eDAH%fULc%#Ɯ> ǃzbÝē>yR_HdEH#ŝVhR*GeßÀjŝVÀnßÀÔß>xƛ>xJEH
d_H#Ýē>ySE@İÔß>xƜÀaÔƜ>zvAD#ƛÀnĂē>zaTAH#Ɯ>zaA*#Ɯ>zaß+SS FEHlFEH#ß MOVE[ŤlŤsVEHdFEH#ƜÀzaPEHEHfQAFřjƜ>
zaKEHEHfSWĽ KAFjKAF#R*Geß>sNGcKAF#ƜÀzaGAFa#R*GnNGOEHfGAF#ƛÀwUEHdAF#Ɯ>zaƚ#ŝVhß>jƜ>fŤzaNO:İoGHUNNA
lRNO:fNO:#R*GeƜ>zbHEH DOAC|SHMEEpTŨHřuHEH#YEH>oGO%a#|MZA>zaTEH M&BUTA GO%qWAW#R*GnKIRGHIZ OEkOEcUbYU
cKIRGHIZ YUkWAW#ƛ>xVEcF&SI YEHjYEH#ŐeŝVqWAWřsEbYEH#ƜÀvB&_Ea#|MZA>zjĄjÂAEjŝĘLIGATU_<AD#ƚ#ÏzfQAF#ƚ#Ï
zoŹrƚ %EFiJEEMeƜkSE@p@[OF AYAHlST&TÿRUB EL HIZBtáĘRƓDE[Z,OmUPă_CT.GUL& Z,Oyß+SS HEA[OF K|Hu÷=xLOW<E@
iĘMADDAkWAWdYEHdĘYEHdNO:pPLACE OF<AJDAHpEMPTY ŕ LOW<TOPiHIGH<TOPwRƓDE[HIGH<TOP#FIL+[ŕzlŝĠ÷oÂD%#ĒV
t_H#ĒVziEXT@DE[&ABIC-*DŌÖe:EdïcĂfÝdđeħcīfE(fĸzh&ABŌ+TT,<HE@İuDADİsG|*İzcSIGN<*DHI AMP,S.D
jPOSTPOSI]: M@zdÂHEH#ĒVziSYRIAC @[OF P&AŊqSUPR%*E& ĄtBŜ& ĄrPR%*E& ƦpBŜ& ƦpÊ ƦqƦ<KEWE[āeR(
sSUPR%*E& Ʀ<KEWE[āzcBŜ& Ʀ<KEWE[R(zdC:TRAC]:lH&K+. OBELUSgMETOBELUSjAST,ISCUS;2tABB_VIAĈrÂ%APH
fSUP,Sń%APHrBƤeGAM%a G&SHUNIoD%ATHfOT+SS D%ATH RƔtHEcWAWdZA*eHƤeTƤa G&SHUNInYUDHa HEhKAPHeƚADHgMIM
dNUNdSEMKATHhF*%<EMKATHnEbPEcý[PElSADHEfQAPHeRƔeSH*eTAWdP,SI. BHƤfG|M%gDH%ATHwPT||>fŤfßTEDnZQAP|>fŤ
fßTEDnRBASA>fŤlßƕZƚA Êk.GUL&uHBASA>fŤg-ESASA ßTEDsESASA>fŤlRWA|fFEM**E ßmQUSHS|YAjRUKKAK|iï Øē>fŤ
wĂē>fŤqOBLIQUE Ŝ>fŤsMUSICfB&_KH;3h+TT,<OGDI. Z|*fK|PHfFEy&ABŌÂBEH#Ɯ ÊLYÀzeßÀÔƜ>zfƜ ÈUP^ÀaÔƛ>
zzbWOēÀÔß>zd*V,TED<áVÀwŝVq|H#ƛ>nĂē ÈUP^ÀzrD%#ƛ ØLYÀ .D<áTAHzo*V,TED<áVÀzg_HĞpSE@#Ýē>zaA*#ƛ>nĂē Èǃ>
zjWOē ØLY>zjFEH#ƛÀnĂē ÈUP^ÀzrKEHEHřjƜ>fÈUP^Àzt÷řfŤtNO:#ƛÀoŝTAHdVrƚ#B&m_H#ƛ ØLY>za|MZA>uSE@#ƛ ØLY>
zk|H#ŝ&ABŌÂTAHÀf.[ƛzuSE@#ŝ&ABŌÂTAHÔƛzv_H#ŝ&ABŌÂTAHÔƛzu|H#ŝ&ABŌÂTAH>zn%EFŚï>iĂ>zyF&SI YEHŚï>iĂ>lÝÀ
zzdWAWŚï>iĂ>zxYEHģ_EŚï>iĂ>zzf|HŚÝÀzwSE@ŚÝ>znĒVuKAF#ƛ>zmT|.Aż|AdS|VIY.IjNO:UfRAAdBAAdL|VIY.IjKAAFU
f%IFUfVAAVUf÷UfFAAFUfD|%UgT|AeLAAMUfGAAFUeNAVIY.IjSE@UfDAVIY.IiZAVIY.IiTAVIY.IiYAAdPAVIY.IiJAVIY.I
iC|VIY.IjTTAAeH|AeK|AeT|%UgZAAdǁ@UfAADHUgDAADHUgTOcZOcA*UeG|*UgQAAFUfWAAVUmABAFILIgABAAFILIjIBIFILI
hEEBEEFILIjUBUFILIhOOBOOFILIjEBEFILIgYBEYFILIjOBOFILIgABOAFILIjSUKUNfÂNAA;15rNKO Öe:EdïcĂfÝdđeħcīfE(
fĸkÂAbEEcIbEbUbOObbDAGBAS*NAkNbBAcPAcTAcJAcC|dDAcRAbRAdSAcGBAdFAcKAcLAcNA WOLOSOjMAcNYAcAc|cWAcYA
cNYA WOLOSOkJ:A JAcC|dRAoCOMB**G<HORT ĘƥjĠƥiRISêƥrŭDESC@DêƥpĘƥjĠƥiRISêƥqNAS%IZAĈrĭß>zbĘƥ APOSTROPHE
uĠƥ APOSTROPHEtSYMBOL OO D@N@jGBAKURUN@rĨfŇqLAJ.Y%.;3kD.TAY%.jOROME~lTAM.~oSAM&IT.ż%AFeBITdGAM.fD%AT
fIYcBAAdZ@dITc]TdYUTdKAAFeLABATfMIMdNUNdS*GAATh*cFIcTSAADIYhQUFdRƔeSH.eTAAFlM&K *a-%AFhOCCLUSI:
jDAGESHkODIFI,żEP@Ɖ]C YUTze&K EP@Ɖ]C YUTtäŭEgEbOV,ŭAAlŭAAhAAcOV,ŭAkŭAgAmŀ +TT,<HORT AxVOWEL~<HORT A
hŭUgUmŀżIräŭIgIbObSUKUNqM&K NEQUDAA;3mĀ NEQUDAAhAFSAAQfNGEDfBAUdATMAAUgSHIYYA%AAwABB_VIAĈ
rĀ MELODŌQITSAnZIQAAfQITSAfZAEFeTURUe&KA.UhSOF MĽFAATm.NAAU;2zdM.DAŌÂH%QAfABbGbDbHcUSH@NAhAZcITcATT
cKSAcbLbMbNbSc*cAPbSZcQbRbSHcTcDUSH@NAiKADdA*kAFFRICAĈqVOC%IZAĈrGEM*AĈ;3pĀ;2tSYRIACżM%AY%AM ƻdJAcNYA
dTTAdNNAbNAeB|dRAcLLAbLAeSSA;6zc&ABŌÂ%EF#ATTAŨ[FAT|fTOP ăFAT|yăMIDD+ƈtÎMIDD+ƈsATTAŨ[KASRAfœ ăKASRA
sRƓ[ß>o( RƓ[ßpÎRƓ[ßoRƓ[ßÀyß>jATTAŨ[TOP ăFAT|Ôß>znăMIDD+ƈÔß>ziATTAŨ[œ ăKASRAÔß>zhTOP ăFAT|ÔÎR*G
znăMIDD+ƈÔÎR*GziATTAŨ[œ ăKASRAÔÎR*Gzhă|MZAlÎ|MZAzlTATWEEL#OV,STRUCK |MZAfWAWoƛÀzcÂTH* YEHpBASEŜ RƓ[ß
sƷRƓ[ßqÂNO:#*V,TED<áVzb|H#*V,TED<áVÀzgTAHİjƜÀzaKEHEH#ƛ ØLYÀzsØ Ő;2nPƓ[M&K>pIAST_Õ>;7sŝĘWOR[%-JUZ
qĠWOR[ƔMAAMgMA%AgTĽEELwMADDA WAAJIBmSUP,Sń%EF MOK|SSASzbÁ[MADDAnęMADDAČ MADDAvÂBEH#ŝVÀn|MZA>uJEEM#ƛ>
yTAH#ƛ>xFEHİÔƜ>zoQAFİsƚ#Áģt÷#Ɯ>zbYEH#ƛÀÔ|MZA>lß>zm_H#LOOPnWAW#ß WITH*tROH*GYA YEHmĠ%EFiD%#ƜÀzaSAD#ƜÀ
zaGAF#*V,TEDƈySTRA( WAWmZA*#ĒV>zbA*#ƜÀzaKAFİsQAFİÔNOē>zlBEH#ŝ÷>zaPEH#ŝ÷>zaTEH#ŝTEH>y_H#ŝNO:>
zaYEH#ƛÀ .D<áNO:>ztAFRIC. FEHdQAFdNO:mPEH#ŝVqTEH#ŝVpTEH#ŝVqŨH#ŝVsKEHEH#ŝVsG|*#Ɯ>zcAFRIC. QAF#Ɯ>
ziJEEM#Ɯ>fŤzbƚ#ŝ&ABŌÂTAH>znďFlŝF&SI YEHjĘF&SI YEHjYEHģ_E#ƛÀzfWORD<AHiZAHoŋ RƓ[ß>fŤvSUKUNÀlŋ ËÀ
mRƓ[ß *Sũ ËÀzkŝĠWAWhĘWOR[&-RUBlSADdA*dQAFdNO:#KASRAuĠNO:#KASRAtĘWOR[ATH-TH%AT|lS-SAJDAhN-NISFhSAKTA
fQIFdWAQFAkFOOTNOTEÕ,pSIGN<AF|vDISPUƕ@[OF AYAHuõDƮÀsCURLY FAT|fDƮfKASRAfFAT|T.iDƮT.iKASRAT.oƥ :E ß>
nƛ>oLOOP>k:E ßÀnƛÀoLOOPÀpşFAT|T.iDƮT.iKASRAT.nŝĘWAWoFAT|#R*Geß>uKASRAİuā/Ħ>uR(/Ħ>vā/HEA[ŤuR(/HEA[Ť
vĭR(/Ħ>a#ßzmR(/Ħ>#ßzfDƮ#ßoM&K<ũWAYS NO: GHUNNAzhDEV.AG&I~ ĒğuğlĜiľm+TT,<HORT AhAaAcIaIcUaUcübL
jC.DRA EiŁ EhEbAIcC.DRA OiŁ OhObAUcKAb|dGAb|dƻdCAb|dJAb|dNYAdTTAb|eDDAb|eNNAdTAb|dDAb|dNAbNNAePAb|
dBAb|dMAcYAcRAbRAdLAbLAbLAeVAcS|cSAcAc|jäOEbOEoðNUKTAfAVAď|näAAcIaIcUaUcüaRkC.DRA EiŁ EhEbAIcC.DRA O
iŁ OhObAUnðšläPRƔT|MATRA EpAWnOMcST_SS~ UDATTAg.UDATTAuŃłmûłmäC.DRA ŭEnUEbUEoÂQAcKH|eGH|eZAcDDD|fR|
dFAcYYAdüRcLLräVOC%ŌLaLvD.DAeƘlIGIT Z,Oe:EdïcĂfÝdđeħcīfE(fĸkƨrðHIGH<PACêßvÂC.DRA AiOEbOEdAWcUEbUE
dM&W&I DDAlZ|dƵYAiGGAdJJAdĹmDDDAeBBAvB@G%I .JIeðğlĜiľ;2mÂAaAcIaIcUaUcübL;3jEbAI;3cObAUcKAb|dGAb|dƻ
dCAb|dJAb|dNYAdTTAb|eDDAb|eNNAdTAb|dDAb|dNA;2cPAb|dBAb|dMAcYAcRA;2cLA;4cS|cSAcAc|;3jðNUKTAfAVAď|näAA
cIaIcUaUcüaR;3kEbAI;3cObAUnðšlÂKH.DA TA;9qAU +NGTHÕ;5oÂRRAc|;2dYYAdüRcLLräVOC%ŌLaL;3vÖe:EdïcĂfÝdđeħ
cīfE(fĸkÂRA#ÌĩpöĩzeRUPEEÕeSIGNkCURR@CY NUM,ATOR :EdïcĂfÝe:E +SS TH. Ɖ D@OM*ATORzoD@OM*ATOR<IXTE@
zdISSH&gG.DAÕkÂVEDŌĜvƨrS.DHIÕ;3tGURMUKHI~ ADAK B*DIkB*DIfľ;2mÂAaAcIaIcUaU;5cEEcAI;3cOOcAUcKAb|dGAb|
dƻdCAb|dJAb|dNYAdTTAb|eDDAb|eNNAdTAb|dDAb|dNA;2cPAb|dBAb|dMAcYAcRA;2cLAbLA;2dVAcS|;2cAc|;3jðNUKTA
;2käAAcIaIcUaU;5cEEcAI;3cOOcAUnðš;4gUDAAT;8kÂKH|eGH|eZAcRRA;2dFA;8jÖe:EdïcĂfÝdđeħcīfE(fĸk]PPIfADDAK
fIRIdURAdEK :K&iðYAKĽlƨ;11yJ&A]~ ğlĜiľ;2mÂAaAcIaIcUaUcübLqVOWEL C.DRA E;2oÂEbAIjVOWEL C.DRA O;2oÂO
bAUcKAb|dGAb|dƻdCAb|dJAb|dNYAdTTAb|eDDAb|eNNAdTAb|dDAb|dNA;2cPAb|dBAb|dMAcYAcRA;2cLAbLA;2dVAcS|cSAcA
c|;3jðNUKTAfAVAď|näAAcIaIcUaUcüaRkC.DRA E;2iEbAIcC.DRA O;2iObAUnðš;3lOM;16cÂüRcLLräVOC%ŌLaL;3vÖe:Edï
cĂfÝdđeħcīfE(fĸkƨrRUPEE~;8kÂZ|kSIGN<UKUNe|DDAgMADDAHgTĂ-ß NUKTA>vË NUKTA>sï-Ë NUKTA>;2zlORIYA~ ğlĜiľ
;2mÂAaAcIaIcUaUcübL;3jEbAI;3cObAUcKAb|dGAb|dƻdCAb|dJAb|dNYAdTTAb|eDDAb|eNNAdTAb|dDAb|dNA;2cPAb|dBAb|
dMAcYAcRA;2cLAbLA;2dVAcS|cSAcAc|;3jðNUKTAfAVAď|näAAcIaIcUaUcüaR;3kEbAI;3cObAUnðš;8gOV,ŜnAI +NGTHÕ
nU +NGTHÕ;5oÂRRAc|;2dYYAdüRcLLräVOC%ŌLaL;3vÖe:EdïcĂfÝdđeħcīfE(fĸkISSH&gÂWAjƗņhH%FiTĂņSo:E<IXTE@TH
jE(HkTĂ<IXTE@THS;11zgTAMIL~ Ĝiľ;2mÂAaAcIaIcUaU;4cEaEcAI;2cOaOcAUcKA;4cƻdCA;2cJA;2cNYAdTTA;4dNNAdTA
;4cNAbNNAePA;4cMAcYAcRAbRAdLAbLAbLAeVAcS|cSAcAc|;5jäAAcIaIcUaU;4cEaEcAI;2cOaOcAUnðš;3lOM;7cAU +NGTHÕ
;15oÖe:EdïcĂfÝdđeħcīfE(fĸkėT@d:EÑhÍtDAY~iM:TH~kYE&~jDEBIT~kC_DIT~lAS>~nRUPEE~kNUMB,~;6qELUGU~ ĳğ>
zb.DRAB*DUlĜiľhĳĜ>zeÂAaAcIaIcUaUcübL;2jEaEcAI;2cOaOcAUcKAb|dGAb|dƻdCAb|dJAb|dNYAdTTAb|eDDAb|eNNAdTA
b|dDAb|dNA;2cPAb|dBAb|dMAcYAcRAbRAdLAbLAbLAeVAcS|cSAcAc|;3jðNUKTAfAVAď|näAAcIaIcUaUcüaR;2kEaEcAI;2cO
aOcAUnðš;8l+NGTHÕlAI +NGTHÕ;2oÂTSAdDZAdRRRA;3eNAKA&A POLLU;3nüRcLLräVOC%ŌLaL;3vÖe:EdïcĂfÝdđeħcīfE(fĸ
;8kSIGN<IDD|MmFRAC]: Ö Ƃ OD[POW,SÿÝzc:E Ƃ OD[POW,SÿÝzbï Ƃ OD[POW,SÿÝzaĂ Ƃ OD[POW,SÿÝzd:E Ƃ ī POW,SÿÝ
zcï Ƃ ī POW,SÿÝzbĂ Ƃ ī POW,SÿÝztðTUUMUrK.NADA~<PACêğtğlĜiľhSIDD|MmÂAaAcIaIcUaUcübL;2jEaEcAI;2cOaOcAU
cKAb|dGAb|dƻdCAb|dJAb|dNYAdTTAb|eDDAb|eNNAdTAb|dDAb|dNA;2cPAb|dBAb|dMAcYAcRAbRAdLAbLA;2dVAcS|cSAcAc|
;3jðNUKTAfAVAď|näAAcIaIcUaUcüaR;2kEaEcAI;2cOaOcAUnðš;8l+NGTHÕlAI +NGTHÕ;7oÂNAKA&A POLLUnFA;2cüRcLL
räVOC%ŌLaL;3vÖe:EdïcĂfÝdđeħcīfE(fĸ;2kðJIHVAMULIYAlUPADHM.IYA;14yM%AY%AM~ ĳĜ>x.DRAB*DUlĜiľmÂVEDŌĜoAaA
cIaIcUaUcübL;2jEaEcAI;2cOaOcAUcKAb|dGAb|dƻdCAb|dJAb|dNYAdTTAb|eDDAb|eNNAdTAb|dDAb|dNAbNNAePAb|dBAb|
dMAcYAcRAbRAdLAbLAbLAeVAcS|cSAcAc|cTTTAlðØģ štCIRCUL& špAVAď|näAAcIaIcUaUcüaR;2kEaEcAI;2cOaOcAUnðš
lÂß _PHpðP&A;5jÂCHILLU MbYbLLLrAU +NGTHÕoƗ :E-HUND_D-.D-ħ]ƤyƂ]ƤmTĂ E(IƤSq:E TW@]Ƥi@THjTĂ TW@]ƤS
q:E FIFTHsÂ&C|ŌIIküRcLLräVOC%ŌLaL;3vÖe:EdïcĂfÝdđeħcīfE(fĸkėT@d:EÑhÍtƗņhH%FiTĂņSo:E<IXTE@THjE(H
kTĂ<IXTE@THSzaDATEÕjÂCHILLU NNbbRRcLaLcK;2zaS*H%A~ ğlĜYAkľYA;2oÂAťfAťgEťfEťiIťfIťhUťfUťhIRUťfUťiLUť
fUťjEťfEťhAIťhOťfOťhAUť;4gLPƏKAťsMA|ƏKAťt%PƏGAťsMA|ƏGAťtK.TAJA NAASIKYAYAsS.YAKA GAťp%PƏCAťsMA|ƏCAť
t%PƏJAťsMA|ƏJAťtTA%UJA NAASIKYAYAkS.YOOGA NAAKSIKYAYAzdS.YAKA JAťp%PƏTTAťtMA|ƏTTAťu%PƏDDAťtMA|ƏDDAť
tUURD|JA NAťrS.YAKA DDAťq%PƏTAťsMA|ƏTAťt%PƏDAťsMA|ƏDAťtD.TAJA NAť;2pS.YAKA DAťp%PƏPAťsMA|ƏPAťt%PƏBAť
sMA|ƏBAťrťhAMBA BAťmYAťhRAť;2hD.TAJA LAť;3pVAťhTA%UJA<AťpMUURD|JA<AťrD.TAJA<Aťp|ťhMUURD|JA LAťrFAť
;4oð%-LAKUNA;5oäAELA-PILLAkKET] AEDA-PILLAqDIGA AEDA-PILLApKET] IS-PILLAoDIGA IS-PILLA
nKET] PAA-PILLA;2pDIGA PAA-PILLA;2oGAETTA-PILLAmKOMBUVAhDIGA KOMBUVAmKOMBU DEKAfVA |A AELA-PILLA
kDIGA AELA-PILLApGAY.UKITTAxGAY.UKITTA;7wLITH Öe:EdïcĂfÝdđeħcīfE(fĸ;3päDIGA GAETTA-PILLAkY.UKITTA
zcĀ KUNDD%IYA;13zfT|I ơ KO KAIfHO K|IcUATdWAId:eRAKH.GlNGO NGUhCHO CH.c*Gd.GjSO<OfCHO CHOEiYO Y*G
hDO C|DAiTO PATAKhHO TH.eN.GM:THOkPHUT|OlNO N@gDO DEKgTO TAOfHO THUNGdAH.e:GjNO NUfBO BAIMAIjPO PLA
fHO PHUNGjFO FAfPHO PH.iFO F.gPHO<AMP|OlMO MAfYO YAKgRO RUAfUcLO L*GgUcWO WA@hSO<%AeRUSIeSUAgHO HIP
gLO CHULAiO .GfHO NOKHUKjPAIY.NOIjS&A AgMAI H.-AKATmS&A AAbMcIaIcUEaEcaUhPH*THU;5qURR@CYÆ BAHT
tH&ACT,<&A EbAEcObAI MAIMU.d%AIqLAKKH.GYAOlMAIYAMOKfTAIKHUg EKcTHOcRIdC|TTAWAmTH.T|K|TlNIK|HIT
iYAMAKK.iF:GM.rÖe:EdïcĂfÝdđeħcīfE(fĸkơ .GKH.KHUkKHOMUT;38vLAOżKObHO<UNG;2eTAM;2hP%I G|iNGOdCOcP%I C|
iSO TAM;2gP%I J|iNYOdP%I NYAdTTAb|eDDAb|eNNAiDOcTObHO<UNGeTAMhP%I D|iNOcBOcPObHO<UNGiFO TAMgPHO TAM
hFO<UNGhP%I B|iMOcYOcLO L*G;2dOOT;2hWOcS.SKRIT<|cSAlO<UNGhHO<UNGhP%I LLAiObHO TAMnELLIPSISiäAbMAI K.
hAAbMcIaIcYaYcUaUnðP%I šqäMAI K:sSEMIäLOcNYO;3säEaIcObAYbI;2nKO LA;2fƥ MAI EKcTHOcIcCATAWApC.CELLAĈ
rNIGGAHITA;3jÖe:EdïcĂfÝdđeħcīfE(fĸ;3kHO NOcMOfÂKHMU GOcNYO;33t]BET.<YLLAB+ OM
lM&K GT, YIG MGO TRUNCAƕAl-UM RNAM BCA[MAmGT, TǁG MAzf*I]% YIG MGO MDUN MAxCLOSêYIG MGO<GAB MA
w&ET YIG MGO PHUR<|[MAzbYIG MGO TǁG<|[MAvSBRUL<|DkBSKUR YIG MGOmKA-<HOG YIG MGOr*T,SYLLABŌTǁG
tDELIMIT, TǁG BST&vS|DeNYIS<|DjTǁG<|DkNYIS TǁG<|DpR* CH@<PUNGS<|DtGYA ďM<|DoC&ET -DZU[RTAGS ME ŭC.
zeGT, TǁGpLOGOTYPE~ C|[RTAGSkL|G RTAGSyASTROLOGIC%~<ď GC. -CH& RTAGSv-KHYU[PAjSD:G TSHUGS
zfðRDEL DK& GCIGdNYISeSUMjNAG GCIGdNYISjDK& RDEL NAGxÖe:EdïcĂfÝdđeħcīfE(fĸeę:EdïcĂfÝdđeħcīfE(fĸeZ,O
pM&K BSDUS RTAGSlƻS BZUNG NYI ZLAsC&ET -DZU[RTAGS BZHI MIG C.zfƻS BZUNG<GOR RTAGSvŨ MGOhTSA -PHRU
jGUG RTAGS GY:cASo.G KH.G GY:cAStðY& TǁSjM& TǁSoÂKAb|dGAb|dƻdCAb|dJA;2cNYAdTTAb|eDDAb|eNNAdTAb|dDAb|
dNAcPAb|dBAb|dMAcTSAb|eDZAb|eWAcZ|cAc-AcYAcRAcLAcS|cSAcAc|cAbKSSAeFIXED-ƂM RAnKKAdRRA;5käAAcIaIcUaU
cüaRcLaLkEaEcOaOnðRJES<U ƻ ROnNAM BCADoäý[IaIwðNYI ZLA NAA DAoSNA LD.nM&K H%.TAhP%UTAlðLCI RTAGS
jY.G RTAGSkLCE TSA C.lMCHU C.iGRU C. RGY*GSlME[RGY*GSpĒMCHU C.vUBJO*ED~ LCE TSA C.lMCHU C.iĒMCHU C.
wÂKAb|dGAb|dƻdCAb|dJA;2cNYAdTTAb|eDDAb|eNNAdTAb|dDAb|dNAcPAb|dBAb|dMAcTSAb|eDZAb|eWAcZ|cAc-AcYAcRA
cLAcS|cSAcAc|cAbKSSAeFIXED-ƂM WAcYAcRA;2zfKU RU K|a BZHI MIG C.wC.]LLŧ~ ƵBEATkL( BEATkC.G TE-U
jSBUB -CH%zdSYMBOL DRIL BUhRDO RJEhPADMA GD.kRDO RJE RGYA ďMrPHUR PAhNOR BUa NYIS -KHYILlGSUM -KHYIL
lBZHI -KHYIL;2yIGN RDEL NAG RDEL DK&jGSUMsM&K BSKA-<HOG GI MGO RGY.xMNYAM YIG GI MGO RGY.wNYIS TǁG
k*I]% BRDA RNYêYIG MGO MDUN MAzkCLOSêBRDA RNYêYIG MGO<GAB MAzxR(-FAC*G<VAS]~yā-FAC*G<VAS]~
xR(-FAC*G<VAS]~#ßSzjā-FAC*G<VAS]~#ßSzi]BET.Õ +ADêMCH. RTAGStTRAILêMCH. RTAGS;38ziMY.M&żKAb|dGAb|dƻ
dCAb|dJAb|dNYAcNYAeTTAb|eDDAb|eNNAdTAb|dDAb|dNAcPAb|dBAb|dMAcYAcRAcLAcWAcSAc|cLLAdAbSH. AgIaIcUaUcE
bM: EfObAUjäT%L AAhAAcIaIcUaUcEbAIcM: IIcOfE>sðĜißÀjľfRAMAgASATjƝì% YAcRAcWAc|yÂG_AT<ApÖe:EdïcĂfÝdđ
eħcīfE(fĸkðĴ<EC]:oSEC]:lYMBOL LOCA]VEiCOMP+TEDjAFO_M@]:EDoG@I]VEp+TT,<|cSAdüaRcLaLräüaRcLaLvÂM: ƻdJ|
dBBAbEoƝM: ì% NAcMAcLAzd+TT,<GAW K&@<|vVOWEL~<GAW K&@ EUyƥÕ<GAW K&@ |THIfKE PHOzcÂWEST,N PWO K&@ T|
dPWAzdäWEST,N PWO K&@ EUcUEzgðWEST,N PWO K&@ ƥ-1b2b3b4b5zeÂEAST,N PWO K&@ NNAdYWAdGHWAzeäGEBA K&@ I
mKAYAH OEcUbEEt+TT,<H. KAb|dGAcCAcZAcNYAdDAcNAcP|dFAcBAcT|d|oC:S:.T~<H. ì% WAzeVOWEL~<H. AAcEa>
hF*% YxSIGN<H. ƥ-2b3b5b6gCƓCIL ƥ-2b3gEMP|]C ƥzgÂRUMAI P%AUNG FAxðRUMAI P%AUNG ƥ-5yH. Öe:EdïcĂfÝdđeħ
cīfE(fĸoIGN K|M] ƥ-1b3säAIT: AaItSYMBOL<H. :EdEXCƚŧzgGEORGI. $.cB.dG.dD:d@cV*dZ@dT.d*cK.dLASdM.dN&d:
cP&dZH&eRAEdS.dT&dUNcPH&eKH&eGH.eQ&dSH*eCH*d.dJILdCILcH&eX.dJH.e|EcEbIEdWEcH&cOE;2dYN;6cA@;3sÂ.cB.
dG.dD:d@cV*dZ@dT.d*cK.dLASdM.dN&d:cP&dZH&eRAEdS.dT&dUNcPH&eKH&eGH.eQ&dSH*eCH*d.dJILdCILcH&eX.dJH.e|E
cEbIEdWEcH&cOEdFIcYNcELIFIfõG.kA*kP&AŊ<ůzdŀżGEORGI. N&zdGEORGI.żA@dH&D~jLABI%~zcH.GUL CHOSE:G ġgưġ
lNîNfźgưźlRîLfMîMfŶfưŶjIOSdS.GŉjîNGfCîCfưCîCkCŢCHhKŢKHhTŢTHhPŢPHhŢHfNîN-ġmưNîNkNîN-źgŶlź-ġnRîL-NîN
lưRîLkRîL-ŢHlKAPYEƓRîLnMîM-ŶlKAPYEƓMîMnŶ-ġgNîNfźgŉa-ġgźgŶjS.GŉiIOS-CîCkCîCeŢCHhTŢTHhPŢPHnKAPYEƓŶfưŶ
sŉ-ġgNîNfźgRîLfMîMfŶa-ġmưŉjîNGfCîCeŢCHhKŢKHhTŢTHhPŢPHhŢHkCHITUEUMŉdS.GŉqE:GCŢMŉdS.GŉuP.ŉhîNG-ġgźgMîM
fŶfŉeP.ŉnưîNGkîNG-CîCeŢCHhTŢTHhPŢPHnYESîNGiCîC-îNGkHITUEUMCîCfưCîCrE:GCŢMCîCfưCîCuŢCH-KŢKHhŢH
kTUEUMCŢCHoE:GCŢMCŢCHsPŢPH-ŶnKAPYEƓPŢPHpưŢHkYEOR*ŢHlġ-źnNîN-ŉeCîCfŢHlź-RîLmFIL+RpJUNGSE:G FIL+RgAaE
cYAaEdEObbYEObcObWAaEdOEcYOcUbWEObbIcYUcEUcYIcIbA-ObUdYA-ObYOfEO-ObUbEUfYEO-ObUfO-EObbYEcObUdYO-YAaE
cEOdObIeU-AaEcEO-EUfYEcUdYU-AbEObbYEObcUbIeEU-UbEUfYI-UeI-AbYAcObUbEUc&AEAh&AEAa-EOcUbIhư&AEAkA-EU
eYA-UdEO-YAgO-YAaEo:GSE:G ġgưġlġ-ŉlNîNa-CîCfŢHlźgRîLa-ġgMîMfŶfŉeTŢTHhPŢPHhŢHlMîMfŶa-ŉkŉdS.GŉjîNGfCîC
eŢCHhKŢKHhTŢTHhPŢPHhŢHfġ-RîLfŉ-ġsNîN-ġgźgŉeP.ŉhTŢTHnź-ġgRîLmRîL-ġ-ŉlNîNfźa-ŢHsưRîLkRîL-MîM-ġgŉkŶ-ŉ
eŢHlKAPYEƓŶnưŉjP.ŉhKŢKHhYEOR*ŢHrMîM-ġgRîLfŶfŉdS.GŉjP.ŉhCŢCHhŢHlKAPYEƓMîMnŶ-RîLfPŢPHhŢHlKAPYEƓŶnŉ-ġgź
gRîLfŶkP.ŉhîNG-ġgưġrưîNGkîNG-KŢKHnYESîNGa-ŉeP.ŉqPŢPH-ŶnKAPYEƓPŢPHpŢH-NîNfRîLfMîMfŶlYEOR*ŢHlġ-NîNfŶ
fCŢCHhKŢKHhŢHmưNîNzcƤIOPIC<YLLAB+ |bUbIbAAcEEbbOaAdLAbUbIbAAcEEbbObWAdH|bUbIbAAcEEbbObWAeMAbUbIbAA
cEEbbObWAdSZAbUbIbAAcEEbbObWAeRAbUbIbAAcEEbbObWAdSAbUbIbAAcEEbbObWAc|bUbIbAAcEEbbObWAeQAbUbIbAAcEE
bbOaAcWA;2bIbAAcEEb;3c|bUbIbAAcEEbbO;2bWA;2bIbAAcEEb;3eBAbUbIbAAcEEbbObWAdVAbUbIbAAcEEbbObWAdTAbUbI
bAAcEEbbObWAdCAbUbIbAAcEEbbObWAdXAbUbIbAAcEEbbOaAcWA;2bIbAAcEEb;3dNAbUbIbAAcEEbbObWAcYAbUbIbAAcEEbbO
bWAeGLOTT% AbUbIbAAcEEbbObWAkKAbUbIbAAcEEbbOaAcWA;2bIbAAcEEb;3cXAbUbIbAAcEEbbO;2bWA;2bIbAAcEEb;3eWA
bUbIbAAcEEbbOaAdPH&YNGE% AbUbIbAAcEEbbO;2mZAbUbIbAAcEEbbObWAc|bUbIbAAcEEbbObWAeYAbUbIbAAcEEbbOaAdDA
bUbIbAAcEEbbObWAcDAbUbIbAAcEEbbObWAeJAbUbIbAAcEEbbObWAdGAbUbIbAAcEEbbOaAcWA;2bIbAAcEEb;3cGAbUbIbAA
cEEbbObWAAfT|bUbIbAAcEEbbObWAeC|bUbIbAAcEEbbObWAeP|bUbIbAAcEEbbObWAeTSAbUbIbAAcEEbbObWAdZAbUbIbAAcEE
bbOaAeFAbUbIbAAcEEbbObWAdPAbUbIbAAcEEbbObWAdRYAdMYAdFYA;3mĳGEM*ŧÔVOWEL +NGTHÕzhVOWEL +NGTHÕrGEM*AĈ
zaSECĈmWORDSPACEjĄjĨfSEMIƦjƦfP_Ć ƦnƇnP&AŊ<ůtƊdïcĂfÝdđeħcīfE(fĸkėT@cƣfŰgƂTYeIFTYfħTYeīTYhE(YgĸTY
gHUND_DhT@Ƨ;4tSYLLAB+<EBATBEIT MWAnMWIbEEbdSEBATBEIT BWAnBWIbEEbdSEBATBEIT FWAnFWIbEEbdSEBATBEIT PWA
nPWIbEEbmT:%Õ YIZETfD,ETfRIKRIKgŁ RIKRIKmDIFATfK@ATfCHI_TgHũTfD,ET-HũTlKURT;7yCH,OKEEżAbEbIbObUbVbGA
cKAcGEbIbObUbVc|bEbIbObUbVcLAbEbIbObUbVcMAbEbIbObUcNAcHNAdNAHcEbIbObUbVcQUAbEbIbObUbVdSAbaEbIbObUbV
cDAcTAcDEcTEcDIc]cDObUbVbLAdTLAbEbIbObUbVcSAbEbIbObUbVdWAbEbIbObUbVcYAbEbIbObUbVcMV;3j?YEbIbObUbVcMV
;3x.ADI.<YLLABICS HYPH@gEbAAIdIaIcOaOcY-C_E OOjC&RI, EEcIjAaAcWEaST-C_E WElIbEST-C_E WIlII
cEST-C_E WIImObEST-C_E WOlOOcEST-C_E WOOnNASKAPI WOOlWAbEST-C_E WAlAAcEST-C_E WAAnNASKAPI WAAlAI
cY-C_E WiĹmF*% ûfŃfœ ęR*GqTOP ęR*GnăęR*GnNGeĭûfŁ ØƈSzeÌßkŁ ÊƈxƖeÙ Tƴp@c*c:c.cPEbAAIdIaIcOaO
dY-C_E POOkC&RI, HEEcIkPAaAcWEdÜ PWEnPWIdÜ PWInPWIIeÜ PWIIoPWOdÜ PWOnPWOOeÜ PWOOoPWAdÜ PWAnPWAA
eÜ PWAAoY-C_E PWAAlPbÜ PlC&RI, HjTEbAAIdIaIcOaOdY-C_EƩOkC&RI, DEEcIkTAaAcWEdÜ TWEnTWIdÜ TWInTWII
eÜ TWIIoïdÜ ïnïOeÜ ïOoTWAdÜ TWAnTWAAeÜ TWAAoNASKAPI TWAAmTaTEbIbObAdKEbAAIdIaIcOaOdY-C_E KOOkKAaAcWE
dÜ KWEnKWIdÜ KWInKWIIeÜ KWIIoKWOdÜ KWOnKWOOeÜ KWOOoKWAdÜ KWAnKWAAeÜ KWAAoNASKAPI KWAAmKaW
cSƱH-SLAVEY KEHcIHcOHcAHqCEbAAIdIaIcOaOdY-C_E COOkCAaAcWEdÜ CWEnCWIdÜ CWInCWIIeÜ CWIIoCWOdÜ CWOnCWOO
eÜ CWOOoCWAdÜ CWAnCWAAeÜ CWAAoNASKAPI CWAAmCbSAYISI THjMEbAAIdIaIcOaOdY-C_E MOOkMAaAcWEdÜ MWEnMWI
dÜ MWInMWIIeÜ MWIIoMWOdÜ MWOnMWOOeÜ MWOOoMWAdÜ MWAnMWAAeÜ MWAAoNASKAPI MWAAmMbÜ MlMHcAT|PASC. M
mSAYISI MiNEbAAIdIaIcOaOdY-C_E NOOkNAaAcWEdÜ NWEnNWAdÜ NWAnNWAAeÜ NWAAoNASKAPI NWAAlbC&RI, NGkNHc+
bAAIdIaIcOaOdY-C_E LOOkLAaAcWEdÜ LWEnLWIdÜ LWInLWIIeÜ LWIIoLWOdÜ LWOnLWOOeÜ LWOOoLWAdÜ LWAnLWAA
eÜ LWAAoLbÜ Llì% LiSEbAAIdIaIcOaOdY-C_E<OOkSAaAcWEdÜ<WEnSWIdÜ<WInSWIIeÜ<WIIoSWOdÜ<WOnSWOOeÜ<WOOoSWA
dÜ<WAnSWAAeÜ<WAAoNASKAPI<WAAmSbAT|PASC.<mSWcÅFOOT<lMOOSE-C_E<KnNASKAPI<KWc-WcPWAdTWAdKWAdCWAmǁbIaIcO
aOcAaAcWEeÜ<HWEoSHWIeÜ<HWIoSHWIIfÜ<HWIIpSHWOeÜ<HWOoSHWOOfÜ<HWOOpSHWAeÜ<HWAoSHWAAfÜ<HWAApSHcYEbAAIdI
aIcOaOc-C_E YOOjAaAcWEdÜ YWEnYWIdÜ YWInYWIIeÜ YWIIoYWOdÜ YWOnYWOOeÜ YWOOoYWAdÜ YWAnYWAAeÜ YWAA
oNASKAPI YWAAmYbBIB+-C_E YmÜ YlSAYISI YIj_b-C_E _jÜ +mRAAIdIaIcOaOdÜ LOmRAaAdÜ LAmRWAAeÜ RWAAoRbÜ R
lì% RiFEbAAIdIaIcOaOcAaAcWAAeÜ FWAAoFbƉdN-C_E ƉkTHIdN-C_E THIkTHIIeN-C_E THIIlTHOaOcAaAcWAAfÜ THWAA
pTHbƉbIbObAbcYEbIbObAdNUNAVIK HEbIaIcOaOcAaAceUT HjHKcQAAIdIaIcOaOcAaAcbTLHEbIbObAeÜ _bIbObAmƻAIdIaI
cOaOcAaAcbNGdSAYISI<HEbIbObAkWOODS-C_E ƉbIbObAbnLHIaIcOaOcAaAccTH-C_E ƉbIaIcOaOcAaAckAIVILIK B
jÅFOOT EbIbObAbWEbIbObAcNEbIbObAcKEbIbObAmSAYISI HEbIbObAjC&RI, GHUbObEaEcIbAdRUbObEaEcIbAcWUbObEaE
cIbAcHWUbObEaEcIbAdTHUbObEaEcIbAcTUbObEaEcIbAdPUbObEaEcIbAbbGUbObEaEcIbAcKHUbObEaEcIbAcKUbObEaEcIbA
bcNUbObEaEcIbAcMUbObEaEcIbAcYUbObEaEcIbAcJUkSAYISI JUjC&RI, JObEaEcIkSAYISI JIjC&RI, JAbJUbObEaEcIbA
dLUbObEaEcIbAcDLUbObEaEcIbAdLHUbObEaEcIbAdTLHUbObEaEcIbAcUbObEaEcIbAdZUbObEaEcIbAbb*I]% ZjDZUbObEaE
cIbAdSUbObEaEcIbAbHUbObEaEcIbAbcTSUbObEaEcIbAdCHUbObEaEcIbAdTTSUbObEaEcIbAlHI~iĄjQAIdƻIdNGIaIcOaOcA
aAfWOODS-C_E THWEEcIaIcOaOcAaAfF*% THtÅFOOT WzfOG|M<PACEÕkÂBEITHfLUISeFE&NfSAILeNI:eUATHeDAIReT*NE
fCOLLdEIRTfMU*eGORTeNGEAD%hSTRAIFgRUISeAILMe:NdURcEAD|DHhIOD|DHhEAB|DHhORcUIL+.NiIF*eEAMH.CHOLL
lPEITHmFEATH,Õmý[FEATH,Õ;4zcRUNŌÂFEHU FEOH FE FoVbURUZ UR UjYRbbWbTHURISAZ THURS THORNuƤd.SUZ AhOS O
eAC AdESCeL:G-BR.CH-OSS OrŁ-TWIG-OSS OqOaEbNcRAIDO RA[_I[RqKAUNAfC@dKAUN KgGb@GdGEBO GYFU Gk&
dWUNJO WYNN Wm|GLAZ HgEGL HhL:G-BR.CH-|G%L HuŁ-TWIG-|G%L HtNAUDIZ NY[NAU[NrŁ-TWIG-NAU[NrßTED-N
iISAZ IS ISS InEbJ,. JhG,dL:G-BR.CH-& AErŁ-TWIG-& ApIWAZ EOHiP,THO PEORTH Pp%GIZ EOLHXlSOWILO<
hIGEL L:G-BR.CH-SOL<wHORT-TWIG-SOL<qCbZb]WAZ ]R TYR TpŁ-TWIG-TYR TqDbB,K.. BEORC BJ&K. B
yŁ-TWIG-BJ&K. BußTED-PiOP@-PgEHWAZ EH EkM.NAZ M. MmL:G-BR.CH-MADR MsŁ-TWIG-MADR MrLAUKAZ LAGU LOGR L
sßTED-Li*GWAZddDAGAZ DAEG DmOTH%. EƉL OpE&dIORdCWEORTHg%CdE%CfST.eL:G-BR.CH-YRoŁ-TWIG-YRnICEL.DIC-YR
mQbXiS*G+ ĀsMUL]P+ Āuò Ār&LAUGÆnTVIMADURÆpBELGTHORÆpÂKbSHcOOcFR.KS CASKET OScIScEHcACbESC
;8zgTAG%OGżAbIbUbKAcGAcƻdTAcDAcNAcPAcBAcMAcYAcRAcLAcWAcSAc|jäIbUmðšgPAMUDPOD;10nÂ&C|ŌRAzaH.UNOOżAbI
bUbKAcGAcƻdTAcDAcNAcPAcBAcMAcYAcRAcLAcWAcSAc|jäIbUmðPAMUDPODvPHILIPP*EŖ ĀsĭĀ;10zeBUHI[ÂAbIbUbKAcGAcƻ
dTAcDAcNAcPAcBAcMAcYAcRAcLAcWAcSAc|jäIbU;13sTAGB.WAżAbIbUbKAcGAcƻdTAcDAcNAcPAcBAcMAcYA;2cLAcWAcSA
;2jäIbU;13vKHM,żKAb|cObHOdNGOdCAb|cObHOdNYOdDAcTT|eDOcTTHOeNNOdTAb|cObHOdNOcBAcP|cObHOdMOcYOcROcLO
cVOcS|cSOcAc|cLAcQAj*DEP@D@T VOWEL QAQbAcIaIcUaKbUaVeRYaYdLYaYdQEbAIcOO TYPE :EdïlAUvVOWEL *H,@T AQ
bAlðAAcIaIcYaYcUaUbAcOEcYAcIEcEbAEbIcOOcAUnðNIKAHITh_AHMUKhYUUK%EAP*TUnMUUSIKATO.lTRIISAPhB.TOC
gROBATfTO.DAKHIATlKAKABAThAHSDAfSAMYOK<.NYAnVIRIAMgCO@GfBAT|MASATkKH.eB&IYOOS.kCAMNUC PII KUUHp+KƩO
hBEYY%gPHNAEK MU.lKOOMUUTmCURR@CYÆ RIELuðAVAKRA|S.YAmTT|C.;3nÖe:EdïcĂfÝdđeħcīfE(fĸ
;7kSYMBOL +K ATTAK<:dMUOYePIIdBEIcU:ePRAMa-MUOYePIIdBEIcU:;7zhM:GOLI. BIRGAfELLIPSISiĨfĄjƦfÝē
jTODO<OFT HYPH@qSIBE<YLLAB+ BƓD&YÕ,zeM.CHU ĨfĄqNIRUGUgF_E ŗ]:<E+CTOR :EdïcĂzeVOWEL<ů
pF_E ŗ]:<E+CTOR ÝzdÖe:EdïcĂfÝdđeħcīfE(fĸ;7kÂAbEbIbObUbOEcUEcEEcNAc.GdBAcPAcQAcGAcMAcLAcSAb|dTAcDAcC|
dJAcYAcRAcWAcFAcKAb|dTSAdZAc|AdZRAdL|dZHIdCHIdTODO ŭVOWEL~pEbIbObUbOEcUEc.GdBAcPAcQAcGAcMAcTAcDAcC|
dJAcTSAdYAcWAcKAcGAAd|AdJIAdNIAdDZAiSIBE EbIaYcUEbb.GdKAcGAc|cPAcS|dTAcDAcJAcFAcGAAd|AdTSAdZAcRAAdC|
dZ|iM.CHU IbKAcRAcFAcZ|kC|#ƛ;8r%I G%I Ĝ :Emľ :ElDAM&UgUBADAMAhĒUBADAMAqB%UDAgTĂ B%UDAmAbIbKAcƻdCA
cTTAb|eDDAdNNAdTAcDAcPAb|dSSAdZ|cAcAHlTODO %I G%I TAcZ|rM.CHU %I G%I G|dƻdCAcJ|dTTAdDD|eTAcD|dSSA
dCYAdZ|cAs%I G%I ęUbYAqM.CHU %I G%I B|t%I G%I DAG%GAqM.CHU %I G%I L|;6zlC.ADI.<YLLABICS OYcAYbAYdWAY
dPOYcAYcWOYeTAYdKAYcWAYeMAYdNOYcAYdLAYdSOYcAYcHOYcAYcWOYfYOYcAYdRAYdNWIdOJIBWAY NWIlNWII
eOJIBWAY NWIImNWOdOJIBWAY NWOlNWOOeOJIBWAY NWOOmRWEEcIaIcOaOcAdOJIBWAY PbTbKbCbMbNbSaHkEAST,N W
jWEST,N WjF*%<áR*GkƷßqR-C_E RWEkÜ LOOcAAnTHWEbAdTHWEcOOcAAeLHWEcOOfSAYISI<HWEcOOeHOOkC&RI, GWU
dD@E GEEiGAAcWAlSAYISI JUUkC&RI, JWAlBEAV, D@E LbRnC&RI, D@T%<;11zkLIMBU VOWEL-C&RI, +TT,uÂKAb|dGAb|
dƻdCAb|dJAb|dY.dTAb|dDAb|dNAcPAb|dBAb|dMAcYAcRAcLAcWAcS|cSAcAc|cGY.eTRA;2käAbIbUbEEcAIcOOcAUcEbO
mSUBJO*E[ÂYAcRAcWA;5sM%!KAcƻdĜiTAcNAcPAcMAcRAcLAoIGN MUKPHR@GjKEMPHR@GjSA-I;5eLOO;4iŇqƇnÖe:EdïcĂfÝdđ
eħcīfE(fĸqTAI +żKAcXAcƻdTSAdSAcYAcTAb|dLAcPAb|dMAcFAcVAc|cQAcK|dTS|eNAcAbIbEEbHcUbOObbUEcEbAUEcI
;3cƥ-2b3b4b5b6;12uNEW TAI LUEżĘQAhĠQAgĘKAcXAcƻiĠKAcXAcƻhĘTSAdSAcYAhĠTSAdSAcYAgĘTAb|dNAhĠTAb|dNAgĘPA
b|dMAhĠPAb|dMAgĘFAcVAcLAhĠFAcVAcLAgĘ|cDAcBAhĠ|cDAcBAgĘKVAdXVAiĠKVAdXVAhHIGH<UAiLOW<UA
;5oäVOWEL<HORT@,pAAcIIcUaUcEbAEcOaAcUEcAYbAYdUYcOYbAYdUEYdIYnÂF*% VbNGbbMbKbDbBoƥÕ-1b2;7lÖe:EdïcĂfÝ
dđeħcīfE(fĸkT|M Ɗ;4oðLAEaVvKHM,Æ PAT|MASATkMUOY KOETjPII KOETiBEI KOEThU: KOETjPRAM KOETf-MUOY KOET
jPII KOETiBEI KOEThU: KOEToDAP KOETf-MUOY KOETjPII KOETiBEI KOEThU: KOETjPRAM KOETnTUTEYASAT
jMUOY ROCiPII ROChBEI ROCgU: ROCiPRAM ROCe-MUOY ROCiPII ROChBEI ROCgU: ROCnDAP ROCe-MUOY ROCiPII ROC
hBEI ROCgU: ROCiPRAM ROCzaBUG*ESEżKAcGAcƻbKAePAcBAcMAbPAdTAcDAcNAbRAdCAcJAcNYAbCAeYAcRAcLAcVAcSAcAb|
jäIbUbEbObAE;3nP%LAWAh@[OF<EC]:xTAI T|MżĘKAb|cXAiĠKAbXAc|hƻdĘCAb|iĠCAcSAcC|hNYAdRATAeĘRAT|kDAcĠRAT|
jR.AeĘTAb|iĠTAb|hNAcBAcĘPAb|dFAhĠPAcFAcP|hMAcĠYAgĘYAhRAbUEdLAbUEdWAcHIGH<|cSAcAc|hLLAdAbĠ|gIaIcUaU
cEEcOOcLAEdG_AT<ApƝì% RAcLAjLA T.G LAIzbðMAI K.G LAIrƝF*% ƻjĠPAgĘRAT| OR ĠPAuMAcBAcSA;2rSIGN<AKOTkäA
bMAI<AThAAcT%L AAhIaIcUEbUEcaUcOaAÀhYcEbAEcOOcAIcT|M AIhOA>tðMAI K.Giƥ-1b2gKHU@ ƥ-3b4b5mRA |AM
hMAI<AMhKHU@-LUE K&.;3uĳCRYPTOďMMŌßzcHORA Öe:EdïcĂfÝdđeħcīfE(fĸ;7pT|M Öe:EdïcĂfÝdđeħcīfE(fĸ;7pðWI.G
aWAAKjSAW.fKEOWeHOYdDOKMAIgý[ROTAƕR.AvMAI YAMOKjKA.aKUUhSATKA.aKUUkH.GeCA.G;3tĳÁ[ÐłyIA,ESIS-R*G
o*F*ITYiǃ/pő ßkX-XÀjWIGGLY ŜÀrOP@ÕÀpĭOP@ÕÀwL( C@TR%IZŧƈÀziSTR:G C@TR%IZŧƈÀzjP&@ƉSES>rĭP&@ƉSES>
yP&@ƉSESÀfOV,LAYtţWÀhõWÀzhEFT ú> āzcăú> R(zeÎúÀ āzcăúÀ R(zeŬÃS>vNUMB,~>rĒĭ&CH>zbƖ~>pĭƖ~>fŤwő ûł
tţ*SUL& GbRbT;50znB%*ESE~ ULU RICEMfC.DRAkCECEKfSUR.GgBISAHkÂAK&Aa TEDUNGmIK&Aa TEDUNGmUK&Aa TEDUNG
mRA _PAa TEDUNGoLA +ƻa TEDUNGpEK&AfAIK&AgOK&Aa TEDUNGmKAa MA|PR.AmGAa GORAhƻdCAa LACAhJAa J,AhNYA
dTA LA]KfMURDA MA|PR.AsDA MURDA %PAPR.AjMA|PR.AsNA RAMBATjTAa TAWAhDAa MADUhNAcPAa KAP%iBAa KEMB.G
kMAcYAcRAcLAcWAcSA<AGAcPAfc|jðR,EK.mäTEDUNGgULUa<&IiSUKUa ILUTjRA _PAa TEDUNGoLA +ƻa TEDUNGpT%*G
a _PAeTEDUNGg_PA TEDUNGsPEPETa TEDUNGxADEG ADEGjÂKAF<ASAKiHOT<ASAKkTZIR<ASAKkEF<ASAKiVE<ASAKiZ%<ASAK
jASYURA<ASAKlRC|ŌJNYA;4tÖe:EdïcĂfÝdđeħcīfE(fĸkP.]dMADAgW*DUfC&IK PAMUNGKAHjSIKIeP&,@nPAM@@G
iMUSIC%Æ D:Gd@GdUNGd.Ga<UR.Gk*GdA@GeEUNGeA*GdNG GEDEjĳTEGEHf@DEPfKEMPULcLIgJEGOG.hKEMPUL#JEGOG.
pLI#JEGOG.tB@DEfG:GoR(-H.[şDUGcAGiŠTUKcAKvā-H.[şP.GdUNGjŠPLAKcUKlşP*GzjP.] L.T.GlMADA L.T.G
;2xSUND.ESE~ P.YECEKfGLAY&fWISADoÂAbIbUbAEcObEaUcKAcQAcGAcƻdCAcJAcZAcNYAdTAcDAcNAcPAcFAcVAcBAcMAcYA
cRAcLAcWAcSAcXAc|jƝPAM*GK%hNYAKRAeIKUwäP.GHULUfYUKUeAELA@GhOL:GgMEPETfNEU+UNGvðPAMAAEHhšlƝPAS.G. MA
cWAzbÂK|dSYAkÖe:EdïcĂfÝdđeħcīfE(fĸkAVAď|iÂ_Ud+UdB|dF*% KbMyBATAKżAbSIM%UNGUN Am|cSIM%UNGUN |
nM.DAILê|nBAcK&O BAhPAcSIM%UNGUN PAnNAcM.DAILêNAnWAcSIM%UNGUN WAnPAKPAK WAjGAcSIM%UNGUN GAnJAcDAcRA
cSIM%UNGUN RAnMAcSIM%UNGUN MAmƱH,N TAlNORTH,N TAlSAbIM%UNGUN<AnM.DAIL*G<AnYAcSIM%UNGUN YAnƻdLA
cSIM%UNGUN LAnNYAdCAcNDAdMBAdIbUiðTOMPIkäEbPAKPAK EiEEcIbK&O IgObK&O OgUa Ƃ<IM%UNGUN<AzfƝNGcH
qP.GOLATf:G:.;9kSYMBOL B*DU NA METEKiP*&BORASkJUDULfP.GOLATzc+PC|żKAbLAc|dGAbLAdƻdCAb|dJAcNYAdTAb|
dDAcNAcPAbLAc|dFAbLAdBAbLAdMAbLAdTSAb|eDZAdYAcRAcLAc|bLAdVAcSAb|dWAcAiSUBJO*E[ÂYAcRAtäAAcIbOaOcUaUcE
mƝKbMbLbNbPbRbTbNY*-DOhK.GtðR.dNUKTA;4kĀ TA-ROLgNYET THYOOM TA-ROLsC,-WAgTSà C,-WAhsÖe:EdïcĂfÝdđeħcī
fE(fĸ;4kÂTTAb|eDDArOL CHIKI Öe:EdïcĂfÝdđeħcīfE(fĸkÂLAcATbGbNGcLcLAAdAAKbJbMbWdLIcISbHbNYcRcLUcUCbD
bNNcYc+cEPbDDcNbRRdLOcOTTcBbVbHjMU TTUDDAGkGAAHLAA TTUDDAAGqMU-GAAHLAA TTUDDAAGt_LAAfP|&KAAiA|D
eĀ MUCAADgĭMUCAADzjCYRILLIC<M%!RƓDE[VEkL:G-+GGE[DEoN&ROW OiWũ EShT%L TEgĂ-+GGE[TEo%L H&D~jYAT
iUNB+NDE[UK;8zjGEORGI. MTAVRULI $.cB.dG.dD:d@cV*dZ@dT.d*cK.dLASdM.dN&d:cP&dZH&eRAEdS.dT&dUNcPH&eKH&
eGH.eQ&dSH*eCH*d.dJILdCILcH&eX.dJH.e|EcEbIEdWEcH&cOEdFIcYNcELIFIfõG.kA*;3c@dH&D~jLABI%~
ztSUND.ESE Ā B*DU<URYAfP.GL:GhURNAMAhCAKRAf+U<AT.GAlKA<AT.GAkDA<AT.GAkBA<AT.GA;9znVEDŌƥ K&SH.AiSH&A
fPR@K|mðNIHSHVASAjYAJURVEDŌMIDŜ<V&ITAzgƥ YAJURVEDŌAGďVAƕ*DEP@D@T<V&ITAzf*DEP@D@T<V&ITA
tKAT|KA *DEP@D@T<V&ITAznC.DRAÀmYAJURVEDŌKAT|KA *DEP@D@T<V&ITA<CHROED,zxÁ<V&ITAoő<V&ITA
oKAT|KA .UDATTAqßÀjƛÀnĂēÀqRIGVEDŌKĽMIRI *DEP@D@T<V&ITAzmATH&VAVEDŌ*DEP@D@T<V&ITAzmðľ<V&ITAhUDATTA
oý[ľ UDATTAxľ .UDATTAqý[ľ .UDATTAzaľ UDATTA#Őq.UDATTA#ŐzbĜ .T&GOMUK|mBAHIRGOMUK|mVAMAGOMUK|a#Ő
zf]RYAKgHEXIƂM ŭĜwŭĜnRTH.G ŭĜuĜ UB|YATO MUK|wRD|ľmROTAƕ&D|ľzaƥ C.DRA>rðJIHVAMULIYAlUPADHM.IYA
lA]KRAMAnƥ R*G>kĭR*G>wðĭĜ .T&GOMUK|;6zoƶĝAaEx?õAEwĝB&_[BiCbDbƤcw?õşEgIvĝJbKbLĞnMbý[NkOaP@ O
zc?SũWAYS OaP@ OfĞwõOEwĝOUx?TOP ęOkœ ęOzbĝPbý[RkõRhbUw?SũWAYS UbDIA,ESIZE[UnõMzfĝVbWbZbEZH
rVOICE[L&YNGE%<PIR.TyA*qG_EK ĝGƮfƚDAfPIcRHOdPSIzfCYRILLŌĝELzhŀżÒAaEcBa&_[BiDbEbý[EkGbHbIbJbKbLbMbN
bý[NkOaUcPbRbTbUbWjŝAbõAi%P|fõAEjBbDbEbSCHWAfşEgõşEnGbõIiKbMb@GdOaP@ OgTOP ęOkœ ęOnPbTbUbSũWAYS UkõM
iVbA*dBETAeG_EK GƮlDELTAfG_EK PHIjCHIzaLAT*<UBSCRIPT<M%!IbRbUbVzfG_EK<UBSCRIPT<M%!BETAeGƮfRHOdPHI
dCHIzhţUEcB#ÌĚtD#ÌĚtF#ÌĚtM#ÌĚtN#ÌĚtP#ÌĚtR#ÌĚmFƔàÔÌĚzhS#ÌĚtT#ÌĚtZ#ÌĚtõGzcŀżCYRILLŌ@zcţ*SUL& G
jTH#STRIKƤROUGHzd$IĞzdÂIOTAĞqPĞu$UĞzdÂUĲĞtBĬtDĬtFĬtGĬtKĬtLĬtMĬtNĬtPĬtRĬtSĬtESHĬvVĬtXĬtZĬtA#ñuLP|#ñ
zaD#àÔŐuE#ñvşE#ñzbý[şE#ñzkSCHWA#ñzaI#ñvşO#ñzbESH#ñxU#ñvEZH#ñzrŀ +TT,<áõ%P|mCa#CURLlƤdý[şEpFbß+SS JĞ
vSńGiõHiIĞmOTAeÒIaĞvJ#òED-ŐtL#ñoP%AT% àtÒLjM#àlõM#ŭ+GwN#ÎàjñvÒNjB&_[OiPHIdS#àlESHdTĬtUģeĲhÒUjV#àlõV
iZa#ñoCURLlEZHdƉTAzcĳßƕŃłmûłtSNAKEÀkUSP@SI:Õpĕ-ûmŃ-ĕmĕ-Ńmû-ĕmŃ-û-Ńrû-Ń-ûrţRÀzbŵ-ĕmĕ-ŵmĭÐ>xOG:EK>
mZIGZAGÀmISÀiUR>hS>iţFLATT@E[şA>wAEbObVcC CEDILLAj*SUL& DjƤdGoĝGw?KbLoĝLbMw?NoĝNbRw?R ROTUNDAjSbL:G<
gZb%P|fBaETAeSCHWAfFbL#ĭÌĚzbO#L( C@TR%IZŧƈzjPbESHdU#L( C@TR%IZŧƈzjWbA#âqO#âqU#âzkUP Tƴ>nKAVYKA> R(fā
rß> āoWũ ĒBRIDGEÀzbßÀ ānE+ĈmOUB+ ĒŵÀzc%MOSTãÀvā/Ħ>uR(/HEA[.[Ù/HEA[Ťzzaƶ$A#R*GÀzh?A#R*GÀzf$Břzg?Bř
ze$Bİzg?Bİze$B#ŜÀzh?B#ŜÀzf$CļÔûzo?CļÔûzm$Dřzg?Dřze$Dİzg?Dİze$D#ŜÀzh?D#ŜÀzf$Dļze?Dļzc$D#ÐÀzn?D#ÐÀ
zl$E#ĕÔŃzn?E#ĕÔŃzl$E#ĕÔûzn?E#ĕÔûzl$E#ÐÀzn?E#ÐÀzl$E#ĚÀzi?E#ĚÀzg$EļÔŵzo?EļÔŵzm$Fřzg?Fřze$G#ĕzd?G#ĕ
zb$Hřzg?Hřze$Hİzg?Hİze$H#âzg?H#âze$Hļze?Hļzc$H#ŵÀzi?H#ŵÀzg$I#ĚÀzi?I#ĚÀzg$I#âÔûzq?I#âÔûzo$K#ûzc?K#û
za$Kİzg?Kİze$K#ŜÀzh?K#ŜÀzf$Lİzg?Lİze$LİÔĕzr?LİÔĕzp$L#ŜÀzh?L#ŜÀzf$L#ÐÀzn?L#ÐÀzl$M#ûzc?M#ûza$Mřzg?Mř
ze$Mİzg?Mİze$Nřzg?Nřze$Nİzg?Nİze$N#ŜÀzh?N#ŜÀzf$N#ÐÀzn?N#ÐÀzl$O#ĚÔûzm?O#ĚÔûzk$O#ĚÔâzq?O#ĚÔâzo$O#ĕÔŃ
zn?O#ĕÔŃzl$O#ĕÔûzn?O#ĕÔûzl$P#ûzc?P#ûza$Přzg?Přze$Rřzg?Rřze$Rİzg?Rİze$RİÔĕzr?RİÔĕzp$R#ŜÀzh?R#ŜÀzf$Sř
zg?Sřze$Sİzg?Sİze$S#ûÔß>zq?S#ûÔß>zo$SǀÔß>zq?SǀÔß>zo$SİÔß>zu?SİÔß>zs$Třzg?Třze$Tİzg?Tİze$T#ŜÀzh?T#ŜÀ
zf$T#ÐÀzn?T#ÐÀzl$U#âÀzm?U#âÀzk$U#ĚÀzi?U#ĚÀzg$U#ÐÀzn?U#ÐÀzl$U#ĚÔûzm?U#ĚÔûzk$U#ĕÔâzr?U#ĕÔâzp$V#Ězc?V#Ě
za$Vİzg?Vİze$W#Ńzc?W#Ńza$W#ûzc?W#ûza$W#âzg?W#âze$Wřzg?Wřze$Wİzg?Wİze$Xřzg?Xřze$X#âzg?X#âze$Yřzg?Yř
ze$Z#Ðzh?Z#Ðzf$Zİzg?Zİze$Z#ŜÀzh?Z#ŜÀrH#ŜÀrT#âqW#R*G>rY#R*G>rA#ăęR*GwL:G<řiIAG:%ƈpHIGHƈzl$SH&P<
w?DELTAs$Aİzg?Aİze$A#à>zh?A#à>zf$Aƫûzr?Aƫûzp$AƫŃzr?AƫŃzp$Aƫà>zw?Aƫà>zu$AƫĚzr?AƫĚzp$AƫßÀzv?AƫßÀ
zt$A#ŵÔûzm?A#ŵÔûzk$A#ŵÔŃzm?A#ŵÔŃzk$A#ŵÔà>zr?A#ŵÔà>zp$A#ŵÔĚzm?A#ŵÔĚzk$A#ŵÔßÀzq?A#ŵÔßÀzo$Eİzg?Eİ
ze$E#à>zh?E#à>zf$E#Ězc?E#Ěza$Eƫûzr?Eƫûzp$EƫŃzr?EƫŃzp$Eƫà>zw?Eƫà>zu$EƫĚzr?EƫĚzp$EƫßÀzv?EƫßÀzt$I#à>
zh?I#à>zf$Iİzg?Iİze$Oİzg?Oİze$O#à>zh?O#à>zf$Oƫûzr?Oƫûzp$OƫŃzr?OƫŃzp$Oƫà>zw?Oƫà>zu$OƫĚzr?OƫĚzp$OƫßÀ
zv?OƫßÀzt$OƐûzl?OƐûzj$OƐŃzl?OƐŃzj$OƐà>zq?OƐà>zo$OƐĚzl?OƐĚzj$OƐßÀzp?OƐßÀzn$Uİzg?Uİze$U#à>zh?U#à>
zf$UƐûzl?UƐûzj$UƐŃzl?UƐŃzj$UƐà>zq?UƐà>zo$UƐĚzl?UƐĚzj$UƐßÀzp?UƐßÀzn$Y#Ńzc?Y#Ńza$Yİzg?Yİze$Y#à>zh?Y#à>
zf$Y#Ězc?Y#Ěza$MIDD+-WELSH LLzf?MIDD+-WELSH LLzd$MIDD+-WELSH Vze?MIDD+-WELSH Vzc$Y#LOOPzb?Y#LOOP
zfG_EK<M%!%P|#PSILIfDASIAføŗpùŗpøŪoùŪoøóvùózu$%P|#PSILIfDASIAføŗpùŗpøŪoùŪoøóvùózw?EĲ#PSILIfDASIAføŗ
pùŗpøŪoùŪ;3zp$EĲ#PSILIfDASIAføŗpùŗpøŪoùŪ;3zr?ETA#PSILIfDASIAføŗpùŗpøŪoùŪoøóvùózs$ETA#PSILIfDASIAføŗ
pùŗpøŪoùŪoøóvùózu?IOTA#PSILIfDASIAføŗpùŗpøŪoùŪoøóvùózt$IOTA#PSILIfDASIAføŗpùŗpøŪoùŪoøóvùó
zv?OMICR:#PSILIfDASIAføŗpùŗpøŪoùŪ;3zp$OMICR:#PSILIfDASIAføŗpùŗpøŪoùŪ;3zr?UĲ#PSILIfDASIAføŗpùŗpøŪoùŪ
oøóvùó;2zw$UĲ#DASIA;2aÔŗ;2fŪ;2eózy?ſ#PSILIfDASIAføŗpùŗpøŪoùŪoøóvùózu$ſ#PSILIfDASIAføŗpùŗpøŪoùŪoøóvùó
zw?%P|#ŗfŪpEĲ#ŗfŪqTA#ŗfŪnIOTA#ŗfŪoOMICR:#ŗfŪrUĲ#ŗfŪrſ#ŗfŪ;3p%P|#øYPOÞxùYPOÞxøŗŔziùŗŔziøŪŔzhùŪŔzhøóŔ
zoùóŔzzn$%P|#øŽyùŽyøŗÔŽzjùŗÔŽzjøŪÔŽziùŪÔŽziøóÔŽzpùóÔŽzzq?ETA#øYPOÞxùYPOÞxøŗŔziùŗŔziøŪŔzhùŪŔzhøóŔ
zoùóŔzzl$ETA#øŽyùŽyøŗÔŽzjùŗÔŽzjøŪÔŽziùŪÔŽziøóÔŽzpùóÔŽzzo?ſ#øYPOÞxùYPOÞxøŗŔziùŗŔziøŪŔzhùŪŔzhøóŔzoùóŔ
zzn$ſ#øŽyùŽyøŗÔŽzjùŗÔŽzjøŪÔŽziùŪÔŽziøóÔŽzpùóÔŽzzq?%P|#VRACHYgĕgŗŔxYPOÞnŪŔ;2wóaŔzzd$%P|#VRACHYgĕgŗfŪ
eŽzpKOR:IShŽnSILIe,ISPOM@IlDI%Y]KAÔóza?ETA#ŗŔxYPOÞnŪŔ;2wóaŔzzb$EĲ#ŗfŪqTA#ŗfŪeŽznøŗfŪeóv?IOTA#VRACHY
gĕgDI%Y]KAÔŗfŪ;3sólDI%Y]KAÔózx$IOTA#VRACHYgĕgŗfŪ;2zeùŗfŪeóv?UĲ#VRACHYgĕgDI%Y]KAÔŗfŪzgRHO#PSILIfDASIA
oUĲ#ólDI%Y]KAÔózzb$UĲ#VRACHYgĕgŗfŪrRHO#DASIAzeDI%Y]KAÔŗfŪsŗ;3f?ſ#ŗŔxYPOÞnŪŔ;2wóaŔzzd$OMICR:#ŗfŪ
pEGA#ŗfŪeŽzpŪeDASIA;2l@ QUADgM QUADgN<PACEhM<PACEiTĂ-P,-EM<PACEsÝ-P,-EM<PACErħ-P,-EM<PACEqFIGU_<PACE
mĀ<PACErTH*<PACEk|IR<PACEkZ,O WIDTH<PACEfN:-JO*,kJO*,rā-TO-R(ÕsR(-TO-ÎM&KsHYPH@gN:-B_AKêHYPH@
tFIGU_ DĽl@ DĽgM DĽhÊģoĭØ ŜnĠŜpāŖ ŅzbR(Ŗ ŅzcS*G+ LOW-9 ŅuHIGH-ýD-9 ŅzmÎĭŅzbăĭŅzcĭLOW-9 ŅuHIGH-ýD-9 Ņ
zlAGG,fOUB+ DAGG,nBUL+TgňBUL+Tr:E ß +AD,oï ß +AD,oÊ ELLIPSISsYPH@ŧ PO*TrŜ<ůoP&AŊ<ůtā-TO-ăEMBEDD*G
xR(-TO-ÎEMBEDD*GxPOP DI_C]:%)ATT*Gzbā-TO-ăOV,RũwR(-TO-ÎOV,RũwN&ROW NO-B_AK<PACEvP, MIL+~kT@Ƨ~uRIME
fĭPRIMEmő PRIMEmý[PRIMEfĭPRIMEmő PRIMEvC&ETfS*G+ ā-È.G+ ŅzjR(-È.G+ Ņzr_F,@CEÕoĭŇx*T,ROB.GlOV,Ŝ
iUND,]Eiơ ]Em&ET *S,]: PO*TvAST,ISMiHYPH@ BUL+TnFRAC]:<LĽoāíÃ#QUILLzfR(íÃ#QUILLzgĭƇuQUES]: Ň
zaEXCƚŧ Ƈza]R:I.~ ETqý[PILCROW~vŴž BUL+TqƋBUL+TxĠƍmýD<EMIƦsCLOSE UPiï ƍS %IGNE[ØLYzhCOMM,CI% M*US~
vSWUNG DĽkĒUND,]ErFöĀÕxTĂ ß ĀvƼUP+ PRIMEpÝ ß Ātđ ß Āuï ß ĀtÝ ßÕnßƕòmTRIƦiØ ÝēsĤ MAƉMA]C%<PACE
zaWOR[JO*,lFUNC]: APPLICŧu*VISIB+ ]MESfSůjƖ;2oā-TO-ăISOLATEvR(-TO-ÎISOLATEvFIRST<TR:G ISOLATE
uPOP DI_C]:% ISOLATEx*HIBIT<YMMETRIC<WAPP*GzbAC]VATE<YMMETRIC<WAPP*Gzc*HIBIT &ABIC)<|P*G
zcAC]VATE &ABIC)<|P*GzdNŧ% DIGIT<|PESuOM*% DIGIT<|PESuSUP,SńZ,OeţI;3uÝdđeħcīfE(fĸeƖ~jM*USfŎS~lÎúqăú
rţNzfBSńZ,Oe:EdïcĂfÝdđeħcīfE(fĸeƖ~jM*USfŎS~lÎúqăú;2zcLAT*<UBSCRIPT<M%!AbEbObXbSCHWAfHbKbLbMbNbPbSbT
;4zfEURO-CURR@CY~sƦ~jRUZEIRO~nFR@CH FR.C~rLIRA~jMILL~jNAIRA~kPESETA~lRUPEE~kW:~iNEW<HEQEL~pD:G~
jEURO~jKIP~iTUGRIK~lDRACHMA~mG,M. P@NY~rPESO~jGU&.I~mAUSTR%~mHRYVNIA~mCEDI~jLIV_ƩURNOIS~tSPESMILO~
nT@GE~k*DI. RUPEE~rTURKƔ LIRA~rNORDICÕ~qM.AT~kRUB+~kL&I~jBITCO*~mSOM~;16iĳÎH&PO:>săH&PO:>tŭØ ŜČLAY
zbŁ Ø ŜČLAYzc.]ĺ/>zaĺ/>vā/>qR(/>pNGČLAYmĺ RêOV,LAYw.]ĺ RêOV,LAYzbƜ>qÝē>p@CLOSêËgŬgĪhË BƴSLĽzbÎR(/>
w@CLOS*G<C_@gKEYCAPgUPW&[ÈézjýƎČLAYxĭØƈČLAYzf.NUITYÆoő UND,ßpWũ BRIDGE>rž/ČLAYw:G ÁƎČLAYzcR(æǃznāæǃ
zi/ÀqR(/Àrƍ>;16yACCƓT OFjDD_SSE[TO Ɖ<UBJECTyÁ-STRUCK ÒCwEG_E CELSIUSoŕ ŜÆr&E OFfDA UNAiEU+R C:ST.T
oSCRUP+hDEG_E FAHR@HEITrSCRIPT<áGhÒHqÅ-ÂÒHwÁ-STRUCK ÒHxPL.CK C:ST.TaČ ï PIzcSńÒIqÅ-ÂÒIwSńÒLjŝLoL BģÆ
oÁ-STRUCK ÒNxNUM,O~lSƓ[_CORDêCOPYR(yńÒPqÁ-STRUCK ÒPbQxSńÒRqÅ-ÂÒRwÁ-STRUCK ÒRxP_SCRIP]: TAKEr_SP:SE
iS,VICEÕmTE+PH:E~nRADEÕ~pV,SIC+iÁ-STRUCK ÒZxƓCE~jHM~iĒOHM~rÅ-ÂÒZwõG_EK<M%!IOTAzfKELV*~l.GSTROM~nSńÒB
qÅ-ÂÒCwES]MATEDÆqSCRIPT<áEhÒEbFqõÒFqSńÒMjŝOo%EFÆlBETÆkGIMELÆmD%ETÆm*ƂMŧ<OURCEsROTAƕÒQrFACSIMI+~
oÁ-STRUCK<áPIcGƮlÒGƮfPIkN-&Y<UMMŧzeTURNED<Ÿ ÒGbLzcýD<Ÿ ÒLzeTURNED<Ÿ ÒYzcÁ-STRUCK IT%ŌÒDjŝDbEbIbJ
zdPROP,TY ŜnõAMP,S.DqP,~iAK]ESELSKABmTURNED<áFoSYMBOL Ƃ<AM&IT.<OURCEzcVULG& Ɨ<īTHhN*THfT@THeHIRD
jï THIRDSk:E FIFTHjï FIFTHSjĂ FIFTHSmÝ FIFTHSl:E<IXTHjFđ<IXTHSl:E E(HkTĂ E(HSnFđ E(HSmSī E(HS
zeFRAC]: NUM,ATOR :EwROM. NUM,% :EdïcĂfÝdđeħcīfE(fĸeT@dE+V@gTWELVEgFIFTYf:EÑlFđÑm:EƧzbŝROM. NUM,% :E
dïcĂfÝdđeħcīfE(fĸeT@dE+V@gTWELVEgFIFTYf:EÑlFđÑm:EƧzhROM. NUM,% :E THOUS.[C DqFđƧnT@Ƨmý[:EÑzjţý[C
zeROM. NUM,%<IX LATE)nFIFTY E&LY)kÍo:EűÍzjVULG& FRAC]: Z,O THIRDSzcõDIGIT ïcĂ;5sž/pUP^/nįqǃ/pÎR(/
qUP Ù/nĥ/kEAST/qSOUĊ/kWEST/qž/ĞzcįĞzdž WAVE/uƋWAVE/vž ï ĦED/zbUP^ ï ĦED/yƋï ĦED/zcǃ ï ĦED/zbž/#Ő
zaį#Őzbž/ ƞyUP^/ ƞwį ƞzaǃ/ ƞyUP Ù/#BASExž/#àzaį#àzbž/#LOOPzaį#LOOPzbÎăWAVE/k&ROWĞzdǃ ZIGZAG/
wUP^/#]P žjR(^ziǃ/#]P žjR(^zkį#Ż ǃznǃ/#Ż žzm.]ĺƩP<EMIË/zjĺƩP<EMIË/zfĥ/Ʃ L:Gģzdž/ƩģČ įƩģzzb.]ĺ şË/
zgĺ şË/zcāæUP^hǃzmUPæR(^kžzkR(æUP^hǃznÙæR(^kžzmįČ ž/zmUP^/ žÿǃ/zrž/Č įzcPAI_D/SxUP^ PAI_D/SvƋPAI_D/S
yǃ PAI_D/Sxž H&PO:Č ƋH&PO:zqƋH&PO:Č ž H&PO:zqž Á/Ğzf ăÁ/ĞzkƋÁ/Ğzkž Á/wUP^ Á/uƋÁ/xǃ Á/wÎăÁ/xUP Ù Á/
uĥ Á/rEAST Á/xSOUĊ Á/rWEST Á/xž ő/wƋő/xž<QUIGG+/yR(^<QUIGG+/zaUP^/#Áƈzhǃ/#Áƈzjž DĽED/wUP^ DĽED/
uƋDĽED/xǃ DĽED/wž/ƩģwįƩģxž Ç/vUP^ Ç/tƋÇ/wǃ Ç/vUP^ Ç/ ƞi: PEDEST%a#ÊģoØģzkÁ/a : PEDEST%znƋÇ/ FROM W%L
zhĥ/Ʃ ŻzbSOUĊ/Ʃ ŻzbUP Ù Ç/tR(/#ŝËzeǃ/ žÿUP^/zrTĂ įSxž/#Øƈzlį#ØƈzmÎR(/#Øƈzi^/#ĭØƈzsį#ĭØƈztÎR(/#ĭØƈ
zp^ OP@-ĦED/zcƋOP@-ĦED/zdÎăOP@-ĦED/zdƂ %LhCOMP+M@TkP&]% DIFF,@]%uTH,E EXISTSgDOESō EXISTuEMPTY<ET
j*C_M@TjNABLAfE+M@T OFkNOT . E+M@T OFrŝE+M@T OFqC:TA*S AS MEMB,sDOESō C:TA* AS MEMB,
zbŝC:TA*S AS MEMB,y@[OF PROOFmN-&Y PRODUCThCOPRODUCTjSUMMŧpM*US~f-OR-Ɩ~sß ƖhIVISI:<LĽoSET M*USjƍĐ
rRêOP,ATORnBUL+TĐpŬ ROOTlCUBE ROOTjÝTH ROOTlPROPOR]:%Ʃp*F*ITYiă.G+l.G+fMEASU_[.G+oSPH,IC% .G+pDIVũS
gOESō DIVũpP&%+LƩlNOT P&%+LƩpƬ.DdORkƌmUNI:f*TEGR%iĭ*TEGR%pő *TEGR%pC:TOUR *TEGR%qSURĆ *TEGR%
qVOLUME *TEGR%pĺ *TEGR%iC:TOUR *TEGR%zb.]ĺ C:TOUR *TEGR%zfTH,EFO_jBECAUSEhRA]OfPROPOR]:kß M*US
jEXCESSgGEOMETRŌPROPOR]:uHOMOƉ]CkĚĐoý[ĚoĒLAZY<pS*E WAVEjW_ATH PRODUCToNOT ĚjM*US ĚlASYMPTO]C%LYã
xNOT ASYMPTO]C%LYãzcAPPROXIMATELYãiBUTō ACTU%LYãzoNEITH, APPROXIMATELY NOR ACTU%LYãzs%MOSTã
pNOT %MOSTãt%MOST Ŏ ORãyő Ěm%LãmEQUIV%@TƩnGEOMETRIC%LYŞzcDIFF,@CE BETWE@sAPPROAŨS Ɖ LIMIT
uGEOMETRIC%LYãwAPPROXIMATELYã OR Ɖ IMAGE OFznIMAGEÿOR APPROXIMATELYãzjƦ ŎSmŎS ƦmRê*ãlŎƩnCOR_SP:DSƩ
oES]MATESiQUI.GUL&ƩoST& ŎSlDELTAãoŎƩ BY DEF*I]:wMEASU_[BYlQUES]:E[ŎƩtNOTãmID@]C%ƩmNOT ID@]C%Ʃ
qSTRICTLYŞwô ORãvè ORãyôČãxèČãzbô BUTōãzbè BUTōãzeMUCH ôjèrBETWE@hNOTŞnôjèpEITH, ô NORãwè NORã
ziô ORŞzbè ORŞzeNEITH, ô NORŞzcè NORŞznô OR èzaè OR ôzaNEITH, ô NOR èzbè NOR ôzjP_CEDESiSUCCEEDS
iP_CEDES ORãuSUCCEEDS ORãuP_CEDES ORŞzaSUCCEEDS ORŞzaDOESō P_CEDEhSUCCEEDqSUBSET OFhP,SET OF
lNOT A<UBSET OFhP,SET OFrSUBSETÿORãtP,SETÿORãxNEITH, A<UBSETÿNORãuP,SETÿNORãzjSUBSET OF#NOTã
zaP,SET OF#NOTãzeMUL]SETa ƿoUNI:oŬ IMAGE OFiORIG*% OFlIMAGEÿORãuORIG*%ÿORãxCAPcUPkË[ƖeM*USf]MES
fDIVISI:<LĽnOTĐmRêOP,ATORnƍĐrŎSgDĽmŬ[ƖeM*USf]MESfßĐuăTƴkÎTƴjÙ TƴjUP TƴhASS,]:jMODELSgTRUEeƂCES
gő Øģ ăTURNS]+zkĭØģ ĭăTURNS]+zpESō PROVEoNOT TRUEiDOESō ƂCEoNEGAƕĭØģ ĭăTURNS]+zzaP_CEDES UND, _Lŧ
xSUCCEEDS UND, _LŧxƲ OFsC:TA*S AS ƲzcƲÿORãzfC:TA*S AS Ʋ ORãzoORIG*% OFlIMAGE OFiMUL]MAP
iH,MI]. C:JUGATE MATRIXzb*T,C%ATElXORdN.DdORdă.G+#&CoéoN-&Y Ƭ.DdORkƌmUNI:lDIAM:[OP,ATORpOTĐmST&Đ
nDIVISI: ]MESoBOW]EgÎNORM% FACTOR<EMIDI_CT PRODUCTzmăNORM% FACTOR<EMIDI_CT PRODUCT
znā<EMIDI_CT PRODUCTxR(<EMIDI_CT PRODUCTxEV,SE[Ě ŎSvCURLY ƬORc.DrÁ<UBSETeP,SETiƌmUNI:mPITCHƂK
jŎÔP&%+LƩvô#ßsè#ßvV,Y MUCH ôjèwôã OR èzjèã OR ôzjŎƩ OR ôjèmP_CEDESiSUCCEEDSuDOESō P_CEDE OR Ŏ
qSUCCEE[OR ŎzaNOTí IMAGEÿORãuORIG*%ÿORãzjŬ IMAGEÿORōãyORIG*%ÿORōãzjô BUTōŞzgè BUTōŞzjP_CEDES BUTōŞ
zfSUCCEEDS BUTōŞzfNOT Ʋ OFwDOESō C:TA* AS ƲzkNOT ƲÿORãzjDOESō C:TA* AS Ʋ OR ŎztØ ELLIPSIS
rMIDŜ Ê ELLIPSISzcUP ăĩ ELLIPSISzbÙ ăĩ ELLIPSISzdE+M@T OF#ŭÊƈwØģ AT @[OF Êƈ
zzgŝE+M@T OF#Øģ AT @[OF ÊƈzzmE+M@T OFřjOV,B&xŝE+M@T OF#OV,B&zeE+M@T OF#Ƒiï ÊƈSznC:TA*S#ŭÊƈ
wØģ AT @[OF ÊƈzzeŝC:TA*S#Øģ AT @[OF ÊƈzzkC:TA*S#OV,B&vŝC:TA*S#OV,B&zcZōŧ BAG MEMB,SHIPzaDIAMET,~
nE+CTRIC/oHOUSEfUP/ĦmÙ/ĦoPROJEC]VEj,SPEC]VElWAVY ŜjÎCEIL*GmăCEIL*GnÎFLOORkăFLOORlœ ăCROPkÎCROP
qTOP ăCROPkÎCROPný[NOT~rŬ LOZ@GEo&CdSEGM@TfCTORgTE+PH:E _CORD,sPOSI]: *DICATORsVIEWDATAí
pPLACEÿ*T,EST~wõNOT~pWATCHfHOURGLASSjTOP ÎŻlăŻqœ ÎŻlăŻtTOP ę*TEGR%rœ ę*TEGR%uFROWNfSMI+
fUP/HEA[BETWE@ ï ÊģSzpOP]: KEYk,ASEƩ Ɖ R(sX * A _CT.G+ BOXuKEYBO&Diā-È.G+ÃzcR(-È.G+Ãzd,ASEƩ Ɖ ā
rB@Z@E R*GmCYL*DRICITYm%L &ƓD-PROFI+sSYMMETRYiTOT% RUNƱmDIM@SI: ORIG*qC:IC% TAP,nSLOPEfCƓT,BO_eS*K
lAPL FUNC]:%Æ I-BEAMgSQUƔ QUADlQUA[ŎfDIVũeAM:DhJOTdËlË<]+fJOTkSLĽģjBƴSLĽģnQUAD<LĽfBƴSLĽjôjèrž V.E
oƋV.EpQUA[ž/pįvË BƴSLĽqÙ Tƴ ƑrELTA<]+lQUA[Ù C&ETjELTAkÙ Tƴ JOTnUP^ V.EmQUA[UP^/sUP TƴČB&pDEL<]+
jQUA[UP C&ETiDELiUP Tƴ JOTlǃ V.EoQUA[ǃ/sOTE ƑoDELTA ƑnIAM:[ƑqJOT ƑmË ƑpUP<HOE JOTlQUOTE QUADkË<T&
lQUA[ƦkUP Tƴ ârDEL ânST& âoJOT ânË âqÙ<HOE<]+pā<HOE<]+pĚ âpè âwĨģjDEL ĚjZILDEfS]+ ĚkEMIƦ ƑsQUA[NOT Ŏ
jQUES]:nÙ C&ET ĚqUP C&ET ĚoIOTAeRHOdſf%P| ƑoEĲ ƑqIOTA Ƒnſ Ƒo%P|zcNOT ŨCKÕoă.G+#ǃ ZIGZAG/
zoSHOULD,E[şBOXtBELLÆlØ Ŝ#Ìßze*S,]:ÆqC:T*UOUS UND,ŜÆzcDISC:T*UOUS UND,ŜÆzfEMP|SISÆpCOMPOSI]:Æ
sÇí#ŕ Ø Ŝzn@T,Æm%T,NA]VE KEYÆwHELMÆlË[Êģ#NOTCHzaé ÙvBROK@ Ë#NORTHWEST/zjUNDOÆlM:OSTAB+ÆrHYST,ESISÆ
rOP@-CIRCUIT-ƱPUT H-TYPEÆnL-TYPEÆziPASSđ-PULL-Ù-ƱPUTÆsUP-ƱPUTÆzeDI_CT CURR@TÆ) ïzfSOFTW&E-FUNC]:Æ
yAPL FUNC]:%Æ QUADzbDECIM%<ů KEYÆzdP_VIOUS PAGEnNEXT PAGEjPR*T<C_@ÆtC+&<C_@ÆtÎú ċàkEXT@SI:jöàzcăú ċà
kEXT@SI:jöàzdāíÃ ċŻmEXT@SI:jöŻzhR(íÃ ċŻmEXT@SI:jöŻziÎƅ ċàkÌPIECEmöàzeƅ EXT@SI:xăƅ ċàkÌPIECEmöà
zf*TEGR% EXT@SI:sÊ Ŝ EXT@SI:zaċÎOR öăƅ<EC]:zqăOR öÎƅ<EC]:zwSUMMŧƩPdœqTOPíÃsœíÃaČƩPíÃzuRADIC%Æ œ
vÎØ BOX ŜwăØ BOX ŜxÊ<C. Ŝ-1b3b7b9wD@]STRYÆ L( ØÔTOP R(jœ R(qWITH ËuÙÔÊ#ËzgUPÔÊ#ËzeØ#éwÙÔÊ#éziUPÔÊ#é
zgØÔWAVErÙÔÊ#WAVEzeUPÔÊ#WAVEzcÙÔÊtUPÔÊrØÔTOP āiœ āzwŬ FOOTl_TURNÆnEJECTÆmØ Ŝ EXT@SI:xMETRIC% ŵ
fL:GČ<HORTpŁČ L:GpL:GČ ï<HORTSuï<HORTSČ L:GjJO*EDqRISEMEgETRASEMEjP@TASEMEsE&TH GRƓDmFUSEeTOP úpœ ú
sTOP ƅrœ ƅuTOP čzbœ čzeŘTRAPEZIUMpB@Z@E R*G#ËySTRA(NESSmFLATNESSiAC CURR@TkE+CTRIC% ƌxDECIM% EXP:@TÆ
xŴR(-Èĭézfā-ÈĭézeUP-ÈĭézcÙ-ÈĭézeR(-Èĭé#Øģzxā-Èĭé#ØģzwR(-Èé#ĭØģzze%&M CĎlSTOPWATCHj]M, CĎ
lHOURGLASS#FLOW*G<.DzcŴĤ ā-ÈéwR(-ÈéxUP-ÈéuÙ-ÈézkĭØģtÅí Ƃ<TOPpË Ƃ _CORDxPOW,Æg:-OFFÆlÆjS+EPÆ
sOBS,V, EYEÆtSYMBOL Ƃ NULLeST&TÿĦ*GhTEXTn@[OF TEXTdR.SMISSI:rQUIRYhƴNOW+DGElBELLdƴSPACEjÊ TABULŧ
vŜ FEEDjØ TABULŧtƂM FEEDjC&RIAGE _TURNpSHIFT Ʊd*iDATA L*K ESCAPEpEVICE C:TROL :EdïcĂfÝ
tNEGA]VE ƴNOW+DGEuSYNCHR:OUS ID+q@[OF TR.SMISSI: BĎzaC.CELg@[OF ĤnSUBS]TUTEkESCAPEgFI+<ůoGROUP<ů
p_CORD<ůqUNIT<ůoSPACEfDE+TErBL.KÆmşBOXiSYMBOL Ƃ NEWŜhDE+TE) ïpSUBS]TUTE) ï;26zfOCR àeC|IRfƂKeĒƂK
nBELT BUCK+kOW ]EgR.CH B.K ID@]FICŧzbAMƓTÿŨCKpDĽeCUSTOM, ACCƓT NUMB,xĭBƴSLĽ;22uË[ƊdïcĂfÝdđeħcīfE(fĸ
kėT@dE+V@gTWELVEfHIRTE@iÝTE@hIFTE@hħTE@gīTE@jE(E@iĸTE@iTƣvP&@ƉSIZE[ƊdïcĂfÝdđeħcīfE(fĸkėT@dE+V@
gTWELVEfHIRTE@iÝTE@hIFTE@hħTE@gīTE@jE(E@iĸTE@iTƣzcƊ Ąnï ĄmĂ ĄpÝ Ąnđ Ąoħ Ąmī ĄpE( Ąpĸ ĄuėT@ ĄnE+V@ Ą
qTWELVE ĄpHIRTE@ ĄsÝTE@ ĄrIFTE@ ĄrħTE@ ĄqīTE@ ĄtE(E@ ĄsĸTE@ ĄsTƣ ĄxP&@ƉSIZE[ţAbBbCbDbEbFbGbHbIbJbKbL
bMbNbObPbQbRbSbTbUbVbWbXbYbZzjË[ƶ$AbBbCbDbEbFbGbHbIbJbKbLbMbNbObPbQbRbSbTbUbVbWbXbYbZq?AbBbCbDbEbFbG
bHbIbJbKbLbMbNbObPbQbRbSbTbUbVbWbXbYbZuÖsNEGA]VE Ë[ėE+V@gTWELVEfHIRTE@iÝTE@hIFTE@hħTE@gīTE@jE(E@
iĸTE@iTƣzfĭË[ƊdïcĂfÝdđeħcīfE(fĸkėT@zaNEGA]VE Ë[ÖzcBOX DRAW*GS L( ÊqƵÊqL( ØoƵØoL( ő DĽ ÊzdƵő DĽ Ê
zdL( ő DĽ ØzbƵő DĽ ØzbL( ƼUP+ DĽ ÊzgƵƼUP+ DĽ ÊzgL( ƼUP+ DĽ ØzeƵƼUP+ DĽ ØzeL( ÙÔR(uÙ L(ÔăÓvÓÔăL(
zbƵÙÔR(uL( ÙÔātÙ L(ÔÎÓuÓÔÎL(zaƵÙÔātL( UPÔR(sUP L(ÔăÓvÓÔăL(yƵUPÔR(sL( UPÔārUP L(ÔÎÓuÓÔÎL(xƵUPÔā
rL( ØÔR(yØ L(ÔăÓzfUP ÓÔăÙ L(zeÙ ÓÔăUP L(zeØ ÓÔăL(zfÙ L(ÔăUP ÓzeUP L(ÔăÙ ÓzeƵØÔR(yL( ØÔāxØ L(ÔÎÓ
zeUP ÓÔÎÙ L(zdÙ ÓÔÎUP L(zdØ ÓÔÎL(zeÙ L(ÔÎUP ÓzdUP L(ÔÎÙ ÓzdƵØÔāxL( ÙÔÊyEFT ÓÔăÙ L(zgăÓÔÎÙ L(
zgÙ L(ÔÊ ÓzbÓÔÊ L(zgăL(ÔÎÙ ÓzgÎL(ÔăÙ ÓzgƵÙÔÊzaL( UPÔÊwEFT ÓÔăUP L(zeăÓÔÎUP L(zeUP L(ÔÊ ÓzbÓÔÊ L(
zeăL(ÔÎUP ÓzeÎL(ÔăUP ÓzeƵUPÔÊxL( ØÔÊzdEFT ÓÔăØ L(zkăÓÔÎØ L(zkØ L(ÔÊ ÓzkUP ÓÔÙ Ê L(zjÙ ÓÔUP Ê L(
zjØ ÓÔÊ L(zkÎUP ÓÔăÙ L(zjăUP ÓÔÎÙ L(zjÎÙ ÓÔăUP L(zjăÙ ÓÔÎUP L(zjÙ L(ÔUP Ê ÓzjUP L(ÔÙ Ê ÓzjăL(ÔÎØ Ó
zkÎL(ÔăØ ÓzkƵØÔÊzeL( ĭDĽ ÊzdƵĭDĽ ÊzdL( ĭDĽ ØzbƵĭDĽ ØzbĭÊkØnWNŖÔăÁxÁÔR(ŖzbUB+ ÙÔR(tWNŖÔÎÁwÁÔāŖ
zaUB+ ÙÔāuUPŖÔăÁxÁÔR(ŖzbĭUPÔR(tUPŖÔÎÁwÁÔāŖzaĭUPÔāsØŖÔăÁxÁÔR(ŖzhĭØÔR(zaØŖÔÎÁwÁÔāŖzgĭØÔāwWNŖÔÊ ÁzdÁÔÊŖ
zgUB+ ÙÔÊzbUPŖÔÊ ÁzdÁÔÊŖzgĭUPÔÊyØŖÔÊ ÁzdÁÔÊŖzmĭØÔÊzfL( &C ÙÔR(fānUPÔāeR(qĩ ċăƃātÎƃR(zaòoāeUPcR(fÙkƵā
eUPcR(fÙkL( Î.[ƵR(uUPÔƵÙxƵÎ.[L( R(uUPÔL( ÙzlċęBĎqöŲmQU&T, BĎrTĂƸtęBĎkFđƸsTĂņS BĎuSīƸzaFULL BĎkā<īƸ
tTĂņS BĎuFđƸsęBĎkTĂƸt:Eņ BĎnE(H BĎvăęBĎqL(<|DElĤ<|DEmD&K<|DEkċŲwăŲwƼ.T öāeR(lċāaÔöÎ.[öR(uR(lċR(Ôöā
eR(zlR(aÔöāaÔöR(zzbÅímÇía#RƓDE[ŻSuC:TA*êÅƀízrŬ#Ê FILLpØ FILLnORTHOG:% ò|TCH FILLzbċÎƃăFILLyăƃÎFILL
zfĩ ò|TCH FILLzlÅƀísÇƀísŴ_CT.G+pŘ_CT.G+pŴØ _CT.G+yŘØ _CT.G+yŴP&%+LOďMtŘP&%+LOďMtŴUP-ÈézbŘUP-Èé
zbŴUP-PO*T*G<áézhŘUP-PO*T*G<áézhŴR(-ÈézeŘR(-ÈézeŴR(-PO*T*G<áézkŘR(-PO*T*G<áézkŴR(-ÈPO*T,zdŘR(-ÈPO*T,
zdŴÙ-ÈézdŘÙ-ÈézdŴÙ-PO*T*G<áézjŘÙ-PO*T*G<áézjŴā-ÈézdŘā-ÈézdŴā-PO*T*G<áézjŘā-PO*T*G<áézjŴā-ÈPO*T,
zcŘā-ÈPO*T,zcŴĪnŘĪa C:TA*êÅ<áĪztFƔEYEhLOZ@GEhŘËmßƕËnË#Ø FILLzaBULLSEYEhLƴ ËmË#ÎęÅpăęÅqöęÅqċęÅkăƼ.T Å
zb%L BUT ċÎƼ.T ÅzuÎęŴËwăęŴËx*V,SE BUL+TgŘËuċę*V,SE ŘËzgöę*V,SE ŘËzgċÎƼ.T CIRCUL& &CzbăƼ.T CIRCUL& &C
ziöăƼ.T CIRCUL& &CzcÎƼ.T CIRCUL& &CzhċęËröęËrŴöăéoÎétċÎénăézbŘBUL+TmŬ#ÎęÅpăęÅqċÎĩ ęÅzföăĩ ęÅ
zsÇí#Ø BISECTêŜzkUP-Èé#ßzkUP-Èé#ÎęÅpăęÅzrŋ ËmÇí#ċÎƼ.TtöÎƼ.TnăƼ.TuċăƼ.TzhË#ċÎƼ.TtöÎƼ.TnăƼ.TuċăƼ.T
znċÎénăéuöÎétŘĤítŴĤítŘĤƀízaŴĤƀízaöăéuÅ<UN#RAYStCLOUDfUMB_LLAiSNOWM.hCOMETfÅ<T&kÇ<T&kL(N*G
jTHUND,STORMmSUNdASC@DêNODEoDESC@DêNODEpC:JUNC]:lOPPOSI]:kŴTE+PH:EpŘTE+PH:EpB%LOT BOXa#ŨCKfXrS%]_
hUMB_LLA#RA* DROPSyHOT BEV,AGEmÇ<HOGI PIECErÅ<HOGI PIECErS|MROCKiý[ROTAƕFLOR% Ɵ BUL+TzlŴÎÈĔtăÈĔ
zbŘÎÈĔtUP ÈĔrăÈĔuÙ ÈĔzaSKULLÔòB:ESuCAU]:~mRADIOAC]VE~qBIO|Z&D~oCADUCEUSi.KHeORTHODOX òoCHI RHO
gROSSÿLORRA*EiJ,US%EMsST&ÔC_SC@TrF&SIÆmADI<|K]k|MM, .D<ICK+rPEACEÆmY* Y.GiTRIďM Ƃ HEAV@gLAKEeFI_
eTHUND,hW*DdAT,fMƓTA*iE&THrWHEELÿDH&MAnITE FROWNêĆnSMILêĆsÅ<MILêĆsÇ<UN#RAYStFIRSTņ MO:sLASTņ MO:
rM,CURYhFEM%E~lE&THfM%E~jJUPIT,hSATURNgUR.USgNEPTUNEhPLUTOf&IESfTAURUSgGEM*IgC.C,g+OdVIRGOfLIBRA
fSCORPIUShAGITT&IUSlCAPRICORNjAQU&IUSiPISCESgŘŨSS K*GeQUE@fROOKeBƔOPgKN(gPAWNqŴŨSS K*GeQUE@fROOK
eBƔOPgKN(gPAWNkSPADE<UITqŘƟ<UITkĪ<UITsŴCLUB<UITpÇ<PADE<UITqŴƟ<UITkĪ<UITsŘCLUB<UITpHOT<PR*GSlQU&T,ōE
mE(HōElBEAME[E(HōESmħTE@THōESwMUSŌFLAT~jNATUR%~mSH&P~qWEST<YRIAC òrEAST<YRIAC òrUNIV,S% _CYCL*GÆ
zb_CYCL*GÆ Ƃ TYPE-1 PLAS]CSk2 PLAS]CSk3 PLAS]CSk4 PLAS]CSk5 PLAS]CSk6 PLAS]CSk7 PLAS]CSpG@,ŌMAT,I%S
znŴUNIV,S% _CYCL*GÆzh_CYC+[PAP,ÆvP&]%LY-_CYC+[PAP,Æzf,M.@T PAP,~uWHEELC|IRÆrDIE Ć-1b2b3b4b5b6
kŘË#ß R(jƛzbŴË#Řß R(pï ÇēzhM:OďM Ƃ Y.Gd*qDIďM Ƃ G_AT, Y.Gm+SS, Y*c.GlG_AT, Y*wŘFLAGkŴFLAGk|MM,ÔPICK
p.CHORgòED<WORDSoSTAFFÿAESCULAPIUStC%ESg%EMBIChFLOW,gGE&eSTAFFÿH,MESpATOMÆlF+UR-DE-LISmƱŜ[Ç<T&
tTĂ ŜS C:V,GêR(fāzcW&N*G~mĘVOLTAGE~rÁ[FEM%E~lM%E~r*T,ĎE[FEM%EÔM%E~zhM%EÔFEM%E~pWITHƈ~e.[M%EÔFEM%E~
zqØ M%EĞ~zfÊ M%EĞ~zhĤ ŘËmŴËmŝŘËy&RIAGEÆpDIVORCEÆoUNM&RIE[P&TN,SHIPÆzdCOFF*gFUN,% URNlNEUT,gC,ES
fP%LASgJUNOeVESTAfCHIR:gŴMO: LILITHrSEX]+fMISEX]+lQU*CUNXiSESQUIƼATEnOCC, B%LlBASEB%LiŬ[KEY
lŘDRAUGHTS M.dK*GtŴDRAUGHTS M.dK*GtSNOWM. WITHƱ<NOWtUN BEH*[CLOUDqRA*eÅ<NOWM.nTHUND, CLOU[.[RA*
vURNE[Ç<HOGI PIECErÅ<HOGI PIECEyŘDIAM:[*íxòêL.ESoDISAB+[C&mOPHIUCHUSjPICKeC&<LID*GlHELMET#Řò
xË[òêL.ESv|*SgNO @TRYiĻE :E-WAY ÎWAY TRAFFICzjŴï-WAY ÎWAY TRAFFICzfŘï-WAY ÎWAY TRAFFICzfŴÎL.E M,GE
vŘÎL.E M,GEvDRđ<LOW~pƵŘÙ-ÈézjÎŠ@TRYrŬD<%]_pF%Lêĩ * ŘË * ÅízxŴTRUCKl_STRICƕÎ@TRY-1b2
xASTR:OMIC%Æ Ƃ UR.USzfƵËĞÔƛ>zsP@TAďMjR(-H.DE[*T,LACE[P@TAďMziā-H.DE[*T,LACE[P@TAďMzhĒP@TAďM
sŴò :<HIELDvSH*TO<HR*EnCHURCHfAST+gHISTORIC<ITEnGE& WITHƱ HUBh H.D+SrMAPÆ Ƃ L(HOUSEyƓTA*
iUMB_LLA : GRƓDsFƓTA*hLAG * HO+l,RYfSAILBOAThQU&E Ý ŻSsKI,fICE<KATEjP,S:#B%LqT@TeJAP.ESE B.KÆ
uĦSƥ ŃY&DÆzbFUEL PUMPjCUP : ÅítŘFLAG#Ê ÌÅ<TRIPEzvÅ<AFETY<CISSORSvċBLADE<CISSORSuÅ<CISSORS
oöBLADE<CISSORSuÇ<CISSORSiƵŨCKÕwTE+PH:E LOCŧ~wAPE DRđkAIRPL.Ei@VELOPEiƷFISTeH.DlVICTORY H.DmWRITêH.D
möăP@CILsP@CILgċăP@CILsŘNIBjŴNIBjŨCKÕkƵŨCKÕqƿ XqƵƿ XwB%LOT XiƵB%LOT XoƱŜ[G_EK òuƵG_EK òrşŕ òrƵşŕ ò
xƶòlS|DOWE[ŘƶòzbƱŜ[ƶòuM%TESE ònST&ÿDAVIDnÝ TE&DROP-SćyB%LO:-SćzdƵÝ B%LO:-SćzjÝ CLUB-SćzaŴÝ PO*TED<T&
xŘÝ PO*TED<T&xSP&K+ShT_SS ƱŜ[Ç<T&zbË[Ç<T&sşŕ Å<T&wŴŕ Ç<T&xƱŜ[Å<T&tƵƱŜ[Å<T&zaP*WHEEL<T&nS|DOWE[Ç<T&
tƵƍoşŕ ƍuE(<ćpPO*ƕÅ<T&kP*WHEEL<T&zcħĮwE( PO*ƕ_C]Ŝ& Å<T&zlƵE( PO*ƕ_C]Ŝ& Å<T&zrTWELVEĮzaħTE@ PO*ƕƍ
yTE&DROP-Sćyşŕ TE&DROP-SćzlƵTE&DROP-Sćzfħ PET%+[ÅÔŘFLO_TTEzmŴFLO_TTEoŘFLO_TTEoE( PET%+[ƱŜ[ŴFLO_TTE
znË[şŕ E( PO*TED<T&znƵTE&DROP-SPOKE[P*WHEEL ƍzoSNOWFLAKEjT( TRIFOLIATE<NOWFLAKEzbƵŨVR:<NOWFLAKE
xSP&K+hÓ<P&K+nB%LO:-SćxE( TE&DROP-SPOKE[PROPEL+R ƍzpƵE( TE&DROP-SPOKE[PROPEL+R ƍzvòÕkS|DOWE[ŘË
vNEGA]VEí[òÕzcöăDROP-S|DOWE[ÇíznċăDROP-S|DOWE[ÇíznöR(<|DOWE[ÇíziċR(<|DOWE[ÇíziŴƇ ązdŘƇ ąwŇ ą
zgŴDIAM:[M*US ŘXzcƵŇÆzeL( ØģsĤ ØģtƵØģmS*G+ õĨ Ņ ązlĨ Ņ ązlĭõĨ Ņ ązlĨ Ņ ązlLOWŖ Ĩ Ņ ązlĭĨ Ņ ą
zvƽD<TEM P&AŊ~ ązkƵŇ ązaƟ Ň ązgŴƟrROTAƕƵŴƟ BUL+TzhFLOR% ƟmROTAƕFLOR% Ɵ BUL+TzcĤ Îú ązaăú ą
zbFLATT@E[Îú ązaăú ązlā-È.G+Ã ązlR(-È.G+Ã ąztƵā-È.G+ Ņ ązsR(-È.G+ Ņ ąztā-È.G+Ã ązlR(-È.G+Ã ą
zsL( Îč ązlăč ązsĤ Îƅ ązcăƅ ązkD*GBAT NEGA]VE Ë[ƊdïcĂfÝdđeħcīfE(fĸkėT@zcËD<Ÿ ƊdïcĂfÝdđeħcīfE(fĸkėT@
zeNEGA]VE ËD<Ÿ ƊdïcĂfÝdđeħcīfE(fĸkėT@zvƵWũ-ĦE[įzdƖ~jM*US~kDIVISI:~nSOUĊ/qįqNORĊ/wDRAFTêPO*T į
zgƵRƓD-]PPE[įzké-ĦE[įzhÓÄ[įznDĽE[é-ĦE[įzoƵDĽE[é-ĦE[įzuŴįwTĂ-[TOP-L(E[įĦzhœ-L(E[įĦzsŴįĦzbƵŴƽ[ǃÔį
zfUP^ÔįzwSQUAT ŴįzdƵC:CAVE-PO*ƕŴįztR(-S|DE[Řįzkā-S|DE[ŘįzjBƴ-]LTED<|DOWE[ŘįzsFR:T-]LTED<|DOWE[Řį
ztƵöR(-S|DOWE[ŘįzsċR(-S|DOWE[ŘįzyNOTŨ[öR(-S|DOWE[ŘįzzbCURLY LOOPkNOTŨ[ċR(-S|DOWE[ŘįzzbË[ƵŘį
zlÇ-FEATH,E[įzhÅ-FEATH,ED<OUĊ/qįqNORĊ/zhƵÅ-FEATH,ED<OUĊ/qįqNORĊ/znTE&DROP-B&BE[įzhƵTE&DROP-SH.KE[į
zoWEDGE-TAI+[įzeƵWEDGE-TAI+[įzkOP@-ƱŜ[įzfĭCURLY LOOPrTĂ DIM@SI:% .G+xŘé C:TA**G<áŘézvP,P@DICUL&
nOP@<UBSETeP,SETnā<-S|PE[BAG DELIMIT,zcR(<-S|PE[BAG DELIMIT,zdOR#ß *SũsýƎ P_CED*G<UBSET
zhSUP,SET P_CED*GƎzbØģ#ÊƈzkMAƉMA]C% RISêĩzdŭDIVISI:nMAƉMA]C% F%LêĩzeŬ[Ƭ.DdORsŘĪ#ŕ[ßzf.D#ß
mE+M@TÿOP@êUP^zböăŻ#ßzcċÎŻ#ßzbÎƱ, JO*păƱ, JO*qFULL Ʊ, JO*pŋ UP TƴhÙ TƴoEFTÔăĭTURNS]+qTƴoMUL]MAP
m:G ăTƴkÎTƴoUP Tƴ#Ë>zaLOZ@GE DIVũ[BY Ê RU+zjŘC:CAVE-Sũ[Īa#ž ]CKoƋ]CKzrŬ#ž ]CKoƋ]CKziMAƉMA]C% ÎÇíÃ
zaăÇíÃzbÎ.G+Ãsă.G+ÃtÎĭ.G+Ãzaăĭ.G+ÃzbÎŘčziăŘčzjÎFLATT@E[úzbăFLATT@E[úzpUP^ ƼUP+/xǃ ƼUP+/
za.]ĺ GAPPE[Ë/ziĺ GAPPE[Ë/zeR(/#Ë[Ɩzeŭž/pįqÎR(/m^ Á/wƋÁ/xÎăÁ/t^/ ƞyį ƞzaž Á/ ƞzgƋÁ/ ƞvSQUIGG+/
zfBRAIL+ PATT,N BL.KfßS-1b2b12c3b13c23c123d4b14c24c124d34c134d234d1234e5b15c25c125d35c135d235d1235
e45c145d245d1245e345d1345e2345e12345f6b16c26c126d36c136d236d1236e46c146d246d1246e346d1346e2346e12346
f56c156d256d1256e356d1356e2356e12356f456d1456e2456e12456f3456e13456f23456f123456g7b17c27c127d37c137
d237d1237e47c147d247d1247e347d1347e2347e12347f57c157d257d1257e357d1357e2357e12357f457d1457e2457
e12457f3457e13457f23457f123457g67c167d267d1267e367d1367e2367e12367f467d1467e2467e12467f3467e13467
f23467f123467g567d1567e2567e12567f3567e13567f23567f123567g4567e14567f24567f124567g34567f134567
g234567g1234567h8b18c28c128d38c138d238d1238e48c148d248d1248e348d1348e2348e12348f58c158d258d1258e358
d1358e2358e12358f458d1458e2458e12458f3458e13458f23458f123458g68c168d268d1268e368d1368e2368e12368f468
d1468e2468e12468f3468e13468f23468f123468g568d1568e2568e12568f3568e13568f23568f123568g4568e14568
f24568f124568g34568f134568g234568g1234568h78c178d278d1278e378d1378e2378e12378f478d1478e2478e12478
f3478e13478f23478f123478g578d1578e2578e12578f3578e13578f23578f123578g4578e14578f24578f124578g34578
f134578g234578g1234578h678d1678e2678e12678f3678e13678f23678f123678g4678e14678f24678f124678g34678
f134678g234678g1234678h5678e15678f25678f125678g35678f135678g235678g1235678h45678f145678g245678
g1245678h345678g1345678h2345678h12345678zeƋï-ĦED/#ØƈpĭØƈzzfž Á/#ØƈzsƋÁ/#ØƈztÎăÁ/#ØƈztƋï-ĦED/ ƞ
zlž Á/ ƞzgƋÁ/ ƞzhǃ/#ÊƈznUP^/#Êƈzdő/uǃ ő/wž ĭDĽ/zcƋĭDĽ/zdž ő DĽ/zcƋő DĽ/qWO-ĦE[ő DĽ/zd&ROW#ßTED<TEM
ziUP^/Ʃģuǃ/Ʃģwį#Ő#ØƈpĭØƈzsï-ĦED/#Őa#ØƈpĭØƈzzpž/-Őuį-Ővž Á/-ŐzcƋÁ/-Őzdž/Ʃ ŴĪzhįƩ ŴĪziž/ ƞƩ ŴĪ
zqį ƞƩ ŴĪzrĥ .D<OUĊ/zaEAST .D<ƱH WEST/zaWEST/#àuEAST/#àzbSOUĊ/#àuWEST/#àzbĥ/ÔNORĊ/zgEAST/ .D<OUĊ/
zmSOUĊ/ .D<ƱH WEST/zgWEST/Ôĥ/zmRISêĩ òêF%LêĩzqF%Lêĩ òêRISêĩzqSOUĊ/ òêNORĊ/zrNORĊ/ ò*G<OUĊ/
zrF%Lêĩ òêNORĊ/zrRISêĩ ò*G<OUĊ/zqNORĊ/ òêĥ/zlWEST/ òêNORĊ/zrWAVE/ ÈDI_CTLY R(zj&ROW ÈƋTH@ CURVêUP^hǃ
ziǃ TH@ CURVêžjR(^zxR(-Sũ &C ĺ/zfā-Sũ &C .]ĺ/ziTOP &C .]ĺ/zcœ &C .]ĺ/zfTOP &C ĺ/#M*USzb.]ĺ/#Ɩ
zmöR(<EMICIRCUL& ĺ/zjā<EMICIRCUL& .]ĺ/zs.]ĺ ŠË/ziĺ ŠË/zeį><HORT ž/ztž/><HORT įztŁ į> ž/ztį#ƖÀzhž/#ƖÀ
zgį THROUGH XzbÎR(/ THROUGH<áËzmUP^ ï-ĦED/ FROM<áËzrÎB&B UP ăB&B Ù H&PO:zbÙ ăB&B UP H&PO:
zlUPģB ăÙģB ÎH&PO:zdÎÙģB ăH&PO:zlÎB&B UP ăB&B UP H&PO:zjUPģB ăÙģB ăH&PO:zmÎB&B Ù ăB&B Ù H&PO:
znUPģB ÎÙģB ÎH&PO:zkāæUPƩģzmR(æUPƩģznUPæăTOģznÙæăTOģzpāæÙƩģzoR(æÙƩģzpUPæÎTOģzmÙæÎTOģzoāæUP ƞ
zoR(æUP ƞzpUPæăƞzpÙæăƞzrāæÙ ƞzqR(æÙ ƞzrUPæÎƞzoÙæÎƞzqāæUP> āæÙzztUPæÎBESũ UPæR(zztR(æUP> R(æÙ
zzvÙæÎBESũ ÙæR(zzxāæUP> R(æUPzpÙ> R(æÙzzwR(æUP> āæUPzoÙ> āæÙzzwāæUP> ŭDĽsÙÀ ŭDĽzxR(æUP> ŭDĽsÙÀ ŭDĽ
zyUPæÎBESũ ÙæR(zzvÙæÎBESũ UPæR(zzvăÁ/#RƓDE[ĦzlŎS~> įzjĚĐ> įzmž/> ĚĐzlį> ĚĐo%MOSTãznô> ž/
zeFT^/ THROUGH ôziè> įzkSUBSET> įzež/ THROUGH<UBSETzfSUP,SET> ž/zfÎFƔ ŐoăFƔ ŐpUP FƔ ŐmÙ FƔ Ő
oő Øģ DELIMIT,zeZōŧ<POTeTYPE ƦvÎŘƅyăŘƅzaÎŘúwăŘúxZōŧ ÎIMAGEÃsăIMAGEÃtÎB*D*GÃuăB*D*GÃzhāíÃ#ƑziR(íÃ#Ƒ
zjāíÃ#]CK *ƩP ŻzsR(íÃ#]CK * œ ŻzwāíÃ#]CK * œ ŻzvR(íÃ#]CK *ƩP ŻztÎ.G+Ã#ßzcă.G+Ã#ßzdÎ&C ôÃzbă&C èÃ
zfĭÎ&C èÃzeă&C ôÃzjÎŴčziăŴčzjßƕF@CEmØ ZIGZAG ŜuMEASU_[.G+ OP@êāzcă.G+ V&I.T#ŬzgMEASU_[ă.G+#ß
ze.G+#S *SũsCUTE .G+lSPH,IC% .G+ OP@êāeUPzbõ.G+mý[.G+o.G+#Ƒtý[.G+#ƑzdOBLIQUE .G+ OP@êUPcÙ
zbMEASU_[.G+#ş&M @Dê*/ ÈUPÔR(fālÙÔR(fānR(ÔUPmÎ.[UPlR(ÔÙoÎ.[Ùzzrý[EMPTY<ETsEMPTY<ET#OV,B&hŝË>sR(/>
rā/>zgË#Êģu[ØģmP&%+LiýƎpP,P@DICUL&p DIVũ[BY ÊģÔTOP ęDIVũ[BY ØģzzmWITH<UP,IMPOSE[Xu[.]ĺ-ROTAƕDIVISI:~
zsUP/ THROUGH ËxË[ŘBUL+TmBUL+Tgôjèo#ŝËƩ Ɖ R(zaï ÊƈSƩ Ɖ R(zwŬ[RISêĩ<LĽvF%Lêĩ<LĽwƍiŝËlQU&Eoï JO*EDíS
rRI.G+řjƑwS * éné#S,IFS AT œzfăé> ÎézjÎé BESũ ØģziØģ BESũ ăézjBOW]E#ÎęÅpăęÅzcLƴ BOW]Em]MES#ÎęÅpăęÅ
zcŘHOURGLASSpŴHOURGLASSpÎWIGGLY F@CErăWIGGLY F@CEsÎĭWIGGLY F@CEyăĭWIGGLY F@CEza*COMP+TE *F*ITY
t]EČ *F*ITYr*F*ITY NEGATED#ØģzjÁ-@DE[MUL]MAPvŬ#C:TOU_[ƱŜze*C_ASES ASmSHUFF+ PRODUCTpŎS~ .D<L.ƕP&%+L
a#Ě>zyID@]C%Ʃ .D<L.ƕP&%+LziG+ICH<T&KmTH,MODYNAMICnÙ-Èé#ÎęÅpăęÅztŴĪ#Ù/xLOZ@GEnŘË#Ù/zdŴË#Ù/
zd,ROR-B&_[ÇímÅímŘĪnŴĪnŘËmŴËzaRU+-DELAYEDlEV,SEƎĐySOLIDUS#OV,B&uýƎ#ÊƈznBIGƎhýƎtĭƖlő Ɩlā-Èƽ[.G+Ã
zjR(-Èƽ[.G+ÃzkT*YeM*YeN-&Y Ë[ßĐmƖĐn]MESĐwUNI:Đ#ßdƖyŬ ƌĐvUNI:Đzcï LOGIC%ÔOP,ATORmORĐxN-&YÚOP,ATOR
uMODULO ï<UMoSUMMŧ#*TEGR%xƼUP+ *TEGR%ĐzcF*ITE P&T *TEGR%u*TEGR%#ÁƈsAV,AGE#SLĽzcCIRCULŧ FUNC]:
u.]ĺ *TEď]:zaŜ *TEď]:#_CT.GUL& PATH &Ɠ[PO+zdSEMICIRCUL& PATH &Ɠ[PO+zjNOT *CLUDêƉ PO+
zo*TEGR% &Ɠ[A PO*TĐzhQUAT,NI: *TEGR%Đzd*TEGR%#ž/#àza]MES~kƌmUNI:fOV,B&hƑwJO*eŋ ÎéĐ
zdZōŧ<ŨMA COMPOSI]:lPIP*GfROJEC]:zdƖ~#ŝË>sÐł>xĚ>lßÀjĚÀlSUBSńïnŴézeM*US~#Ĩ>lßÀjF%LêßSmRISêßS
zcƖ~ * ÎęËqăęËzfVECTOR OR ò PRODUCTxƿ~řjƑziSEMIDI_CT PRODUCT#œ CLOSEDzlMĽ PRODUCTnƿ~ * ÎęËqăęË
zpË[ƿ~#Ðłzzaƿ~ * ĭËzlË[DIVISI:~vƖ~ * évM*US~ * évUL]PLICŧ~ * ézg*T,IOR PRODUCTqR(H.[*T,IOR PRODUCT
zbZōŧ _Lŧ% COMPOSI]:ziAM%GAMŧ OR COPRODUCTzaƌ#ßvUNI:#M*US~kOV,B&sƌ#OV,B&hƬ.DzeUNI:#ƬORpABOVE ƌ
yƌ> UNI:yUNI:>ģ> ƌzjƌ>ģ> UNI:zjUNI: BESũÔJO*ED#UNI:zjƌ BESũÔJO*ED#ƌzxŠUNI:#S,IFSrƌ#S,IFSzgÁí ƌmUNI:
tŠUNI:#S,IFS .D<MĽ PRODUCTzrƬ.DřsORřzaĭƬ.DdORrï *T,SECTêƬ.DdORzcSLOPêŋ ORc.DrƬORČLAPPêƬ.D
zb.D#MIDD+<TEMuOR#MIDD+<TEMt.D#Ê DĽyOR#Ê DĽx.D#ÁČB&oƑiĭƑzhŝVEE#ƑxƬOR#ÁČB&hƑzgZōŧ DOMA* .]_STRIC]:
wR.GE .]_STRIC]:zhŎS~İzbID@]C%řyő Êģ#ĭØƈwő ØƈzxILDEĐřjRISêßSzgSIMIL& M*US<IMIL&vC:GRU@TřyŎS#ƍ
u%MOSTã#ÐłzmPPROXIMATELY Ŏ ORãzgŎS~> Ɩ~zcƖ~> ŎS~zcŎS~> ĚĐzhĭƦ Ŏsï C:SECU]VE ŎS~SzcĂ C:SECU]VE ŎS~S
zfŎS~#ƛ>ÔƛÀzwIV%@T#Ýē>zgô#Ë *Sũzdè#Ë *Sũzgô#Ƈ>zjè#Ƈ>zmô OR<L.ƕŎƩzeè OR<L.ƕŎƩzhô OR<L.ƕŎƩ#ß *Sũ
zuè OR<L.ƕŎƩ#ß *Sũzxô OR<L.ƕŎƩřztè OR<L.ƕŎƩřzwô OR<L.ƕŎƩř R(zzaè OR<L.ƕŎƩř āzzcô OR APPROXIMATE
yè OR APPROXIMATEzcô .DŖ-Ŝōãznè .DŖ-ŜōãzqôÔNOT APPROXIMATEzeèÔNOT APPROXIMATEzhô> Á-Ŝ Ŏ> è
zzcè> Á-Ŝ Ŏ> ôzzcô><IMIL& OR Ŏzhè><IMIL& OR Ŏzkô><IMIL&> èzrè><IMIL&> ôzrô> è> Á-Ŝ Ŏzzcè> ô> Á-Ŝ Ŏ
zzcô><L.ƕŎ> è><L.ƕŎzzsè><L.ƕŎ> ô><L.ƕŎzzsSL.ƕŎƩ OR ôjèmô#ß *Sũzaè#ß *SũzxÁ-Ŝã OR ôjèySL.ƕŎƩ OR ôjè
ztSIMIL& OR ôjèpABOVE ô> ŎS~zcè> ŎS~ztĭNESƕôjèmô#ƑzmèČLAPPêôvBESũ ôzeô ŠBY ƽzaè ŠBY ƽzdô ŠBY ƽ><L.ƕŎ
zuè ŠBY ƽ><L.ƕŎzxSM%+R TH.mL&G, TH.lSM%+R TH. ORãyL&G, TH. ORãxŎS~#BUMPY>zdP_CEDES>Ŗ-Ŝ ŎS~
znSUCCEEDS>Ŗ-Ŝ ŎS~znP_CEDES>Ŗ-ŜōãzoSUCCEEDS>Ŗ-ŜōãzoP_CEDES> ŎS~zbSUCCEEDS> ŎS~zbP_CEDES>ōã
zcSUCCEEDS>ōãzcP_CEDES> %MOSTãzfSUCCEEDS> %MOSTãzfP_CEDES>ō %MOSTãzjSUCCEEDS>ō %MOSTãzjĭP_CEDES
iSUCCEEDSpSUBSET#ßnP,SET#ßpBSET#Ɩ~ÀzaP,SET#Ɩ~ÀzcBSET#ƿ~ÀzkP,SET#ƿ~ÀzmBSETÿORãřzjP,SETÿORãř
zlBSET OF> ŎS~zaP,SET OF> ŎS~zcBSET OF> ĚĐzdP,SET OF> ĚĐzfBSET OF> %MOSTãzeP,SET OF> %MOSTã
zgBSET OF>ōãzbP,SET OF>ōãzeQU&E ÎşBOXĐwăşBOXĐzfCLOSED<UBSETeP,SETgBSET ORãqP,SET ORãzcSUBSET><UP,SET
tP,SET><UBSETtBSET><UBSETrP,SET><UP,SEToBESũ<UBSETg.[JO*E[BY DĽ#SUBSETzvE+M@TÿOP@êǃzdPITCHƂK#TEEƩP
wTR.SV,S% ƌyƂK*GhN:ƂK*GkŁ ÎTƴjÙ TƴjUP TƴnP,P@DICUL&#SuØģ ő ăTURNS]+zkĭØģ ÎTURNS]+zjØģ ĭÎTURNS]+
zjĭØģ ĭÎTURNS]+zqŭDĽ FROM ÎMEMB,ÿĭØzuŁ Ù Tƴ#OV,B&wUP Tƴ#ƑnABOVE<HORT Ù TƴzkĭÙ TƴjUP TƴhSÉō~wý[Áƈō~
zgDOESō DIVũ#ý[NEGŧ<LĽztØ Ŝ#Ë>fŤzgÙ Tƴ#ËÀzcP&%+L#ÊƈrĚĐzdő Øģ B*&Y _LŧpWITH ÊƈzkƦĐoNESƕôjè
zbÁ-Ŝ<L.ƕô ORãvè ORãztőƎ B*&Y _Lŧzfŋ ő ØģĐzjÁƎĐxŘØģsN-&Y ŘØģxORĊ Ç/qWEST Ç/wSOUĊ Ç/qWEST Ç/wÎăÇ/
s^ Å/vUP^ Å/tǃ Å/vNORĊ Å/qWEST Å/wSOUĊ Å/qWEST Å/wÎăÅ/wUP Ù Å/tį#]P ǃjUP^ziž/#]P ǃjUP^zhŬ#TOP ęÅ
oœ ęÅrċăĩ ęÅzgöÎĩ ęÅzrĪ#ÎęÅpăęÅqTOP ęÅoœ ęÅzeOTTEDínŴŋísŘŋísŴV,YƀíxŘV,YƀíxŴP@TAG:oŘP@TAG:iHEXAG:
nŴHEXAG:nÊ ŴHEXAG:yŴŋ ËmĤ ĪuŘĤ ĪuŴĤ LOZ@GEuŘĤ LOZ@GEuÅ<áĪhLOZ@GEtÇ<áLOZ@GEtŴÊ ELLIPSEyŘÊ ELLIPSE
yŴØ ELLIPSEwŘØ ELLIPSEwā/#ŝËzdTĂ ž/Swā/#Ë[Ɩzc:G ž<QUIGG+/zdEFT^ ï-ĦED/#ØƈpĭØƈzcƞoő DĽ/
zd&ROW#ßTED<TEMlŐ#ØƈpĭØƈzsï-ĦED/#Őa#ØƈpĭØƈzze&ROW THROUGH XzaWAVE/ ÈDI_CTLY āziŎS~> ž/ziý ĚĐ> ž/
ztž/> ý %MOSTãzuį THROUGH èmSUP,SETziž ƼUP+/zaƋƼUP+/zaEV,SE ĚĐ> įzt(^/> ý %MOSTãzvĚĐ> ž/zlž/> %MOSTã
pý ĚĐztį> ý ĚĐzuǃÄ[ZIGZAG/znŁ<L.ƕNORTH/tBƴSL.TED<ƱH/zeŘĤ<T&rÅƀ<T&qÇƀ<T&qŴR(-ÈP@TAG:zeŘR(-ÈP@TAG:
zeƵŋ ËmOV%#OV% *SũvË#Ë *SũtaD<%]_vSL.ƕNORTH/#àE[ĦzlBƴSL.TED<ƱH/#àE[ŐzpSL.ƕNORTH/#Ê Ő
zpBƴSL.TED<ƱH/#Ê Őzs@T/ Èǃ TH@ NORĊzuŁ B@T/ Èǃ TH@ NORĊzzbāŒzgUPŒzeR(ŒzhÙŒzgÎR(ÄD/zhUP ÙÄD/zeĥÄD/
zbEASTÄD/zhSOUĊÄD/zbWESTÄD/zhžÄ[DĽED/znUP^Ä[DĽED/zlR(^Ä[DĽED/zoǃÄ[DĽED/znĺÄ[şË/zs.]ĺÄ[şË/zwāŒƩģ
znUPŒƩģzlR(ŒƩģzoÙŒƩģ;3znĥÄD/ƩģziEASTÄD/ƩģzoSOUĊÄD/ƩģziWESTÄD/ƩģzoāŒ#ĭÊƈzzlUPŒ#ĭÊƈzzjR(Œ#ĭÊƈzzmÙŒ#ĭÊƈ
zzlÊ TAB KEYsØ TAB KEYqāŒČ R(ŒzztUPŒ žÿÙŒzzyR(ŒČ āŒzztÙŒ žÿUPŒzzyžÄ[PAI_D/SzoUP^Ä[PAI_D/S
zmR(^Ä[PAI_D/SzpǃÄ[PAI_D/Szož ŴË[Ç/zkUP^ ŴË[Ç/ziƋŴË[Ç/zlǃ ŴË[Ç/zk.]ĺÄ[ăU-S|PED/uœ U-S|PED/vÎU-S|PED/
tTOP U-S|PED/zx_TURN āeR(mNEWŜ āeR(nÝ Ż/S CIRCLê.]ĺzqƋÅ/;2wSYMBOL Ƃ TYPE A E+CTR:ICS
zeTĂ-[TOP-L(E[ž þzsR(-L(E[UP^ þzsTOP-L(E[Ƌþztā-L(E[ǃ þzzcŴž þzgUP^ þzeƋþzhǃ þzmÙŒ#ŭ]P žjR(^
zzgUPŒ#ŭ]P žjR(^zzeāŒ#ŭ]P UP^zzdR(Œ#ŭ]P UP^zzeāŒ#ŭ]P ǃzzfR(Œ#ŭ]P ǃzzgŴƽ[ǃÔž/pįzfUP^Ôž/pįzdžÔUP^/
zcR(^ÔUP^/zdžÔǃ/zeR(^Ôǃ/zsRIBB:/ Ù āeR(kUP āeR(iÎUPhăUPiÎÙjăÙxUP^ Ç/ ƞ#Êģzv/HEA[* A _CT.G+ BOX
zgOV,LAPPêÇíSh.[ÅíSxÅíSzaB%LOT BOX#L( XxË[XbBOL[XoÅí ŕDoDIAM:[ŕDvõŴP@TAG:vÊ ŴOCTAG:yŴOCTAG:
hĤ UP-Èé ŕDzdÙ-Èé ŕDzfā-Èé ŕDzfR(-Èé ŕDztNEPTUNE) ïqTOP ęŴËvœ ęŴËyL( Ý PO*ƕŴCUSP
zeROTAƕL( Ý PO*ƕŴCUSPzmŘÝ PO*ƕCUSPxROTAƕŘÝ PO*ƕCUSPzgŬ POSI]: *DICATORzaUNC,TA*TY~qGROUPÕkPLUTO) ïcĂ
fÝdđpTR.SPLUTOkPROS,P*AkASTRAEAhHYGIEAgPHOLUSgNESSUSgŘMO:<E+NArŴDIAM:[: òwTRUE L( MO: &TAuCUPIDO
g|DESfZEUSeKR:OSgAPOLL:gDMETOShVULC.USiPOSEID:iÎęÅ<T&uăęÅ<T&vST&#ÎęÅpăęÅzbž ï-ĦED/#é/ĦS
zzbUP^ ï-ĦED/#é/ĦSzyƋï-ĦED/#é/ĦSzzcǃ ï-ĦED/#é/ĦSzzb,IS) :EdïnSEDNAfRUSSI. ASTROLOGIC%Æ VIG*]+jNOVI+
gQU*]+iB*OVI+iS@TAG:iT_DECI+zmŎS~#*F*ITYÀzgUNITEDÆnSEP&ATEDÆqÁDÆoPASSEDÆný[ă.G+uHELLSCH_IB, PAUSEÆ
zbGLAGOLI]C $AZUdBUKYeVEDEeGLAGOLIhDOBROfYESTUfZHđTEhDZELOfZEMLJAgIZHEdNI]% IZHElbDJ,VIgKAKOeLJUDIJE
hMYSLITEhNĽIf:UdPOKOJIgRITSIfSLOVOfTVRIDOgUKUdFRITUfH,UeOTUdPEcSHTAeTSIdCHRIVIgS|dY,UbIdA]eSPID,Y |
kYUcŝYUSa#ŐtYOcIOTATED<áYUSrBIG YUShIOTAƕBIG YUSpFITAeIZHITSAhSHTAPIChTROKUTAS] AmLAT*ATE MYSLITE
qCAUDATE CHRIVIze?AZUdBUKYeVEDEeGLAGOLIhDOBROfYESTUfZHđTEhDZELOfZEMLJAgIZHEdNI]% IZHElbDJ,VIgKAKO
eLJUDIJEhMYSLITEhNĽIf:UdPOKOJIgRITSIfSLOVOfTVRIDOgUKUdFRITUfH,UeOTUdPEcSHTAeTSIdCHRIVIgS|dY,UbIdA]
eSPID,Y |kYUcŝYUSa#ŐtYOcIOTATED<áYUSrBIG YUShIOTAƕBIG YUSpFITAeIZHITSAhSHTAPIChTROKUTAS] A
mLAT*ATE MYSLITEqCAUDATE CHRIVIznƶ$L#Áģzh?L#Áģzf$L#ÌĚtPĞnR#Őzb?AĞnT#ĩƈzk$Hězg?Hěze$Kězg?Kěze$Zězg?Zě
ze$%P|fM#àlõAaLP|zc?V#ăàzf$W#àzb?W#àlV#CURLy$ęHv?ęHgŐ+SS PHImE#NOTCHmõR#ŐsO#ĠRê*SũzkĝõE
zeSUBSCRIPT<M%!JzfŀżÒVzaƶ$S#SWĽ ŐrZ#SWĽ ŐznCOP]C $%FAt?%FAr$VIDAt?VIDAr$GƮu?GƮs$D%DAu?D%DAs$EIEs?EIE
q$SOUs?SOUq$ZATAt?ZATAr$|TEt?|TEr$ƉƉv?ƉƉt$IAUDAu?IAUDAs$KAPAt?KAPAr$LAULAu?LAULAs$MIr?MIp$NIr?NI
p$KSIs?KSIq$Oq?Oo$PIr?PIp$ROr?ROp$SIMAt?SIMAr$TAUs?TAUq$UAr?UAp$FIr?FIp$KHIs?KHIq$PSIs?PSIq$OOUs?OOU
q$DI%ECT-P %EFze?DI%ECT-P %EFzc$ś A*ze?ś A*zc$CRYPTOďMMŌEIEzh?CRYPTOďMMŌEIEzf$DI%ECT-P KAPA
ze?DI%ECT-P KAPAzc$DI%ECT-P NIzc?DI%ECT-P NIza$CRYPTOďMMŌNIzg?CRYPTOďMMŌNIze$ś OOUze?ś OOUzc$SAMPI
u?SAMPIs$òED<HEIzc?òED<HEIza$ś<HEIzf?ś<HEIzd$ś ESHze?ś ESHzc$AKHMIMŌKHEIzd?AKHMIMŌKHEI
zb$DI%ECT-P HORIze?DI%ECT-P HORIzc$ś HORIzf?ś HORIzd$ś |zd?ś |zb$L-S|PE[|zb?L-S|PE[|y$ś HEIze?ś HEI
zc$ś |Tze?ś |Tzc$ś G.GIAzh?ś G.GIAzf$ś DJAze?ś DJAzc$ś<HIMAzg?ś<HIMAze$OL[NUBI.<HIMAzg?OL[NUBI.<HIMA
ze$OL[NUBI. NGIze?OL[NUBI. NGIzc$OL[NUBI. NYIze?OL[NUBI. NYIzc$OL[NUBI. WAUze?OL[NUBI. WAU
zbYMBOL KAIdMI ROfPI ROfSTAUROShTAU ROgKHI ROgSHIMA<IMAr$CRYPTOďMMIC<HEIzi?CRYPTOďMMIC<HEI
zg$CRYPTOďMMŌG.GIAzk?CRYPTOďMMŌG.GIAziĳNI>iSPIRITUS ASP,f+NISxAPITA!BO|IRŌKHEIzd?BO|IRŌKHEI
;6zbOL[NUBI. ĄjDI_CT Ƈu*DI_CT ƇwV,SE DIVID,yƗ H%FqULL<TOPjMORPHOƬDIVID,zdGEORGI.<M%!.cB.dG.dD:d@cV*
dZ@dT.d*cK.dLASdM.dN&d:cP&dZH&eRAEdS.dT&dUNcPH&eKH&eGH.eQ&dSH*eCH*d.dJILdCILcH&eX.dJH.e|EcEbIEdWEcH&
cOE;2dYN;6cA@;3za]F*AGHżYAaBaHcGaHHfB,B, ACADEMY YAJsYAJbDaHbDaHeEYcAFbKdTU&EG YAKkYAKHHdH
dB,B, ACADEMY YAHsTU&EG YAHkYAHHcAbKHeTU&EG YAKHlYAQdTU&EG YAQkYIbAZHeA|GG& YAZHmTU&EG YAZHlY%bMbN
dTU&EG YAGNcNGlYAPcUb&aRcGHeTU&EG YAGHlAY, YAGHjYASaSbHcTaHcCHcTTcVbWbYbZdTAWEL+MET YAZoYAZZdEbO
;8jŀżLABI%IZAĈzjSůÕ;15oC:S:.T JO*,zaƤIOPIC<YLLAB+ LOAdMOAdROAdSOAcHOAeBOAdTOAdCOAdNOAcYOAeGLOTT% OA
kZOAdDOAcDOAeJOAdTHOAeCHOAePHOAdOAdGGWAbIbEEb;10eSSAbUbIbAAcEEbbO;2dCCAbUbIbAAcEEbbO;2dZZAbUbIbAAcEE
bbO;2dCC|bUbIbAAcEEbbO;2eQYAbUbIbAAcEEbbO;2dKYAbUbIbAAcEEbbO;2dXYAbUbIbAAcEEbbO;2dGYAbUbIbAAcEEbbO
;2vĳCYRILLŌÂBEcVEcGHEdDEcZHEcEcKAcELbMbNcObPEc,bScTEc|cTSEdŨdS|bC|fFITAeES-TEfAbIEcDJ,VfM:OŊ UKmYAT
cUcǂAkĴ YUSkBIG YUShǂBIG YUSzră.G+<UBS]TUĈ,tßTED<UBS]TUĈ,znā<UBS]TU]:ÃzaR(<UBS]TU]:Ã
zbÎßTED<UBS]TU]:ÃzhăßTED<UBS]TU]:ÃzhAISE[*T,POLAĈ,ußƕ*T,POLAĈ,zjßƕTR.SPOSIĈ,zcÎTR.SPOSI]:Ã
zbăTR.SPOSI]:ÃzbAISEDínÎƷOMISSI:ÃzdăƷOMISSI:ÃzeEDITORI% COR:ISrP&AŊOSlƂKE[P&AŊOSsý[ƂKE[P&AŊOS
zcHYPODIASTO+mßƕOBELOSlWN^ .CORAqUP^ .CORAoßƕR(-È.G+zaUB+ OBLIQUE HYPH@vĒ*T,ROB.GuP%M BR.CHlHYPH@#â
vĚ#R*G>vÎĠP&APHRASEÃzcăĠP&APHRASEÃzdĚřfŤuÎØģ#QUILLzdăØģ#QUILLzeTOP ÎH%FÃrăH%FÃwœ ÎH%FÃrăH%FÃ
zaā<ũWAYS UÃxR(<ũWAYS UÃyÎĭúxăĭúyƛČ :E ß Āzi:E ßČ ƛ ĀziŬ[Ý ß ĀzdFđ ßÕný[ƇwØ ĚoRêPO*TkWORD<ů ÌßzaõĨ
mƷßdĨmTURNED<EMIƦqDAGG,#ÎGU&DkăGU&DxõDAGG,mOP H%F<EC]:~uWO-EM DĽkĂ-EM DĽnST@OŊŌĄwØ<IXērWIGGLY Ø Ŝ
uCAPITULUMjĭHYPH@ný[ĨoĭLOW-ýD-9 ŅzkĽ#ÎUPTURNuOUB+<USP@SI:ÕwĒĠKAVYKAa#KAVYKA>zmĠKAVYKAa#ßtÁ<TƴE[Ĩ
sTTEDƎoő DAGG,nìEV% ĨoP&AŊUSÕpUNCTUS E+VATUSÕvCORNƔ V,SE DIVID,uROSS PATTY#ăòB&oÎòB&zf]R:I.~ ÒET
yìEV% ŇqƇwāíÃĞzgR(íÃĞzhāíÃ#ÁƈznR(íÃ#ÁƈzoTOP ęÎúqăúzbœ ęÎúqăúzeOBLIQUE HYPH@;35oCJK RADIC% _PEAT
gCLIFFfSEC:[:EdïcĂmP,S:gBOXdTAB+fKNIFE :EdïjDIV*ŧkSE%dá:EdïjƚE :EdïcĂfÝjSNAKEfTH_ADgSNƱ :EdïjƟ :Edï
i.DeRAP;2dCHOKEfSUNdMO:eDEATHfMOTH,gCIVILI.iWAT, :EdïjFI_ePAW :EdïhĶ[ęT_E TRUNKzbCOWdDOGdJADE
eBOLTÿCLOTHnEYEdSPIRIT :EdïkBAMBOOgSILKeC-ĶD<ILKrNET :EdïcĂfÝiMESHeǁEPfRAMdEWEdOLDdBRUSH :EdïjMEAT
dORT&gďSS :EdïcĂl]G,fCLOƉShWEST :EdïiC-ĶD<EEqĶ[HORNpHORNeC-ĶD<PEECHfHELLsFOOTeC-Ķ[C&TrĶ[W%KpW%K :Edï
iCITYd-Ķ[GOLDrŭ:EdïiC-Ķ[L:GeGATErMƓ[:EdïjRA*eBLUEeC-Ķ[T.NE[+ATH,o+AFeW*DeFLYqEAT :EdïcĂjC-Ķ[EATqĦ
eC-Ķ[HORSEsB:EeGHOSTfC-Ķ[FƔeBIRDeS%TrĶ[WHEATfYELLOWrC-Ķ[FROGrJ-Ķ[īrC-Ķ[īrJ-Ķ[TOOTHsC-Ķ[TOOTH
sJ-Ķ[DRAG:tC-Ķ[DRAG:tTURT+gJ-Ķ[TURT+tC-Ķ[TURT+;13zgK.GXI RADIC% :EdŜeßdSLĽeEC:DgàeïdLIDdM.d+GSe@T,e(
fÙ BOXiCOV,fICEdTAB+fşBOXiKNIFEfPOW,fWRAPeSPO:făşBOXoHIDê@CLOSU_qT@dDIV*ŧkSE%eCLIFFfPRIVATEhAGA*fMƱH
f@CLOSU_i&THfSCHOL&hGOa<LOWLYjī*GhBIGdWOM.fCHILDfROOFe*CHeSM%LfƚEeCORPSEgSPRƱgMƓTA*iRIV,fWORKe:ESELF
hTURB.gDRYdŁ TH_ADmßƕCLIFFmL:G<TRũlï H.DSjSHOOTfBOWdSNƱfBRIST+hSTEPeƟe%B,DhDOOReH.DeBR.CHgRAPdSCRIPT
gDIPP,gAXEdŬgNOTdSUNcAYdMO:eT_EeLƴeSTOPeDEATHfWEAP:gDOōgCOMP&EhFURdCL.eSTEAMfWAT,fFI_eCLAWeFATH,gĭX
ięT_E TRUNKpSLICEfF.GeCOWdDOGdPROFƓDiJADEeMEL:f]+eSWEETfLIFEeUSEdFIELDfBOLTÿCLOTHnSICKNESSißƕT@TlÇ
fSK*eDƔeEYEdSPE&f&ROWfSƥePIRITgTRƴfď*fCAVEeST.DfBAMBOOgRICEeSILKeJ&dNETdǁEPfFEATH,hOLDd.DdPLOWeE&
dBRUSHfMEATd*IST,iSELFe&RđgMORT&gT:GUEgOPPOSEgBOATeSTOPP*GiCOLORfďSSf]G,f*SECTgBLOODfW%K @CLOSU_
oCLOƉShWESTeSEEdHORNeSPEECHgV%+YgBE.ePIGdBADG,gǁLLf_DcUNdFOOTeBODYeC&TeBITT,gMORN*GhW%KeCITYeW*E
eDIST*GUƔlVILLAGEhGOLDeL:GeGATEeMƓDfSLAVEeHORT TAI+[BIRDrRA*eBLUEeWR:GfĆe+ATH,hT.NE[+ATH,o+EKeSƓD
f+AFeW*DeFLYdEATdĦeFRAGR.TiHORSEfB:EeT%Le|IReF(fSACRIFICI% W*EqCAULDR:iGHOSTfFƔeBIRDeS%TeDE,eWHEAT
fHEMPeYELLOWgMIL+TgÅfEMBROID,YkFROGeTRIPODgDRUMeRATdNOSEeīeTOOTHfDRAG:gTURT+gFLUTE
;27uũOŊŌDESCRIP]: ơ ÎTO R(nABOVEƩÀoÎTO Ì.[R(yABOVEƩ Ì.[ŤzaFULL<URRƓDnSURRƓ[FROM>fŤfāeċāeR(löā
yOV,LAID;5zfSPACEfĨfĄvDITTOÕkJAP.ESE *DUSTRI%<T.D&DÆzkũOŊŌIT,AĈoCLOS*GÕmėZ,OxÎ.G+Ãsă.G+ÃtÎĭ.G+Ã
zaăĭ.G+ÃzbÎŻÃtăŻÃuÎŘŻÃzaăŘŻÃzbÎŴ+N]CUL&ÃzeăŴ+N]CUL&ÃzfPOST%ÕlGETAÕjÎčzcăčzdÎŘ+N]CUL&ÃzeăŘ+N]CUL&Ã
zfÎŘčziăŘčzjÎÇíÃzaăÇíÃzbWAVE DĽjý[ĭPRIME ŅzlĭPRIME ŅzcĠĭPRIME ŅzgPOST%Õ ĆqH.GZHOU NUM,% :EdïcĂfÝdđeħ
cīfE(fĸvũOŊŌ+VEL ƥÕpRISêƥÕqDEP&TêƥÕt@T,êƥÕzfH.GULŖ ß ƥÕuĭß ƥÕzcWAVY DĽjØ K.A _PEATÕeWITH ƳwM&K ċH%F
pWITH Ƴ ċH%FziM&K öH%FzlË[POST%ÕtũOŊŌTE+Ŋ Ŝ FEED<ůÆzxH.GZHOU NUM,% T@cƣfŰxØ ũOŊŌIT,AĈzkMASUÕ
jP&T %T,NAĈvũOŊŌŗ]: *DICATORtęFILL<PACE;2zcHIRAG.A +TT,<áAhAbŝIhIbŝUhUbŝEhEbŝOhObKAcGAcKIcGIcKUcGU
cKEcGEcKOcGOcSAcZAcSIcZIcSUcZUcSEcZEcSOcZOcTAcDAc]cDIcŝTUiTUcDUcTEcDEcTOcDOcNAbIbUbEbOc|cBAcPAcHIcBI
cPIcHUcBUcPUcHEcBEcPEcHOcBOcPOcMAbIbUbEbOcŝYAiYAcŝYUiYUcŝYOiYOcRAbIbUbEbOcŝWAiWAbIbEbOcNbVUcŝKAbE
;3yĳKATAK.A-HIRAG.A ƳrSEMI-ƳzzaKATAK.A-HIRAG.A ƳrSEMI-ƳzpHIRAG.A IT,AĈoVOICE[IT,AĈvDIŊ YORI
vKATAK.A-HIRAG.A ĭHYPH@x +TT,<áAhAbŝIhIbŝUhUbŝEhEbŝOhObKAcGAcKIcGIcKUcGUcKEcGEcKOcGOcSAcZAcSIcZIcSU
cZUcSEcZEcSOcZOcTAcDAc]cDIcŝTUiTUcDUcTEcDEcTOcDOcNAbIbUbEbOc|cBAcPAcHIcBIcPIcHUcBUcPUcHEcBEcPEcHOcBO
cPOcMAbIbUbEbOcŝYAiYAcŝYUiYUcŝYOiYOcRAbIbUbEbOcŝWAiWAbIbEbOcNbVUcŝKAbEiVAbIbEbOjÌß
l-HIRAG.A PROL:GED<Ɠ[M&Kzf IT,AĈoVOICE[IT,AĈvDIŊ KOTO;6vBOPOMOFOżBbPbMbFbDbTbNbLbGbKbHbJbQbXbZHcCH
cSHcRbZbCbSbAbObEaHcAIcEIcAUcOUc.c@c.Gd@GcRcIbUbIUcVbNGcGNcIHcOřqNN;2sH.GU!ġgưġlġ-ŉlNîNa-CîCfŢHlźgưź
lRîLa-ġgMîMfŶfŉeTŢTHhPŢPHhŢHlMîMfŶfưŶkŶ-ŉkŉdS.GŉjîNGfCîCfưCîCkCŢCHhKŢKHhTŢTHhPŢPHhŢHfAaEcYAaEdEO
bbYEObcObWAaEdOEcYOcUbWEObbIcYUcEUcYIcIiFIL+Rg+TT,<S.GNîNkNîN-źgŉeP.ŉnRîL-ġ-ŉlźgŶ-ŉj.ŉhYEOR*ŢHrMîM-Ŷ
fŉeP.ŉnKAPYEƓMîMnŶ-ġgźgŉ-ġgźlCîCfTŢTHnKAPYEƓŶfưŶsŉ-ġgNîNfźgŶfCîCkP.ŉhưîNGkYESîNGa-ŉeP.ŉqKAPYEƓPŢPH
pưŢHkYEOR*ŢHkO-YAaEdIdU-YEObcIe&AEAaE;2uũOŊŌ.NOTŧ L*K*GÕmýÕm:EÕiïÕhĂÕkÝÕjTOPÕiÌM&KlœÕlFIRSTÕ
kSEC:[M&KlTHIR[M&KkÝTHÕlHEAV@ÕlE&THÕkM.ÕzgBOPOMOFOżBUcZIcJIcGUcEEbNNdOObNNdIRc.Nd*NdUNNdIMcNGGdA*N
dUNNdMcOMbNGd*NNlF*A!PbTbKbHoÂGHcLHcZYjF*A!GoÂGWcKWcOEcAHsCJKƈ TbWGcXGcBXGdSWcHZZbGcPbZWGeSZWGeHZT
bZPdPWGdZWbZZeNbHbSbPbSPcDbHZbGcSZbWZcTbGcPDbZcTNcSZZcWGdHXWGdZZZGfPGcQ;13mKATAK.A +TT,<áKUcSIbUcTO
cNUc|bIbUbEbOcMUcRAbIbUbEbOyP&@ƉSIZE[H.GUL ġgNîNfźgRîLfMîMfŶfŉeîNGfCîCeŢCHhKŢKHhTŢTHhPŢPHhŢHfġ A
iNîN Ahź AiRîL AhMîM AhŶ Ahŉ AgîNG AhCîC AgŢCH AjKŢKH AjTŢTH AjPŢPH AjŢH AhCîC UoKO_. ơ OJE:e HU
;2vũOŊ :EdïcĂfÝdđeħcīfE(fĸeT@dMO:eFI_eWAT,eOODeMET%fE&THfSUNcTOCKf|VEeSOCIETYhNAMEeSPECI%hF*.CI%
jC:ďTULŧoLABORf_P_S@TjC%LeSTUDYeUP,VISEj@T,PRISEk_SOURCEi%LI.CEiFES]V%i_STeSELFe_ACHzeË[ũOŊ QUES]:
iK*D,G&T@mSCHOOLgKOTOoėT@ : Åísƣ : ÅívŰ : ÅíwƂTY : ÅíuIFTY : ÅívħTY : ÅíuīTY : ÅíxE(Y : Åí
zmP&TN,SHIP~qË[ėTƣ :EdïcĂfÝdđeħcīfE(fĸkŰa :EdïcĂfÝdđsH.GUL ġgNîNfźgRîLfMîMfŶfŉeîNGfCîCeŢCHhKŢKHhTŢTH
hPŢPHhŢHfġ AiNîN Ahź AiRîL AhMîM AhŶ Ahŉ AgîNG AhCîC AgŢCH AjKŢKH AjTŢTH AjPŢPH AjŢH AoKO_. ơ C|MKO
gJUEUIwH.GUL îNG UwKO_.<T.D&DÆwË[ũOŊ :EdïcĂfÝdđeħcīfE(fĸeT@dMO:eFI_eWAT,eOODeMET%fE&THfSUNcTOCKf|VE
eSOCIETYhNAMEeSPECI%hF*.CI%jC:ďTULŧoLABORfSEC_TgM%EeFEM%EgSUITAB+iEXCEL+NTjPR*TfATT@]:jITEMe_STeCOPY
cR_CThHIGHeŕgLOWcEFTeR(fìC*Ei_LIGI:iSTUDYeUP,VISEj@T,PRISEk_SOURCEi%LI.CEiN(pėTŰ<IXcīfE(fĸlƂTYa :Edï
cĂfÝdđeħcīfE(fĸjIFTYuũOŊŌTE+ŊÆ Ƃ J.U&YhFEBRU&YiM&CHfAPRILfMAYdJUNEcLYeAUGUSTgSEPTEMB,jOCTOB,hNOVEMB,
iDECEMB,zqŬ HGc,GcVjLIMIƕLIABILITY~wË[KATAK.A AbIbUbEbObKAbIbUbEbOcSAbIbUbEbOcTAbIbUbEbOcNAbIbUbEbO
c|bIbUbEbOcMAbIbUbEbOcYAbUbOcRAbIbUbEbOcWAbIbEbOtŬ ,A NAME _IWAoAPAATOfRUHUAfNPEAe&Ue**GUe]eU:
dESUKUUDOhEKAAf:SUdOMUeKAIRIdRATTOeORIIhG&:dNMAeIGAcNIIfKYURIIgGIRUDAAhKIROaGURAMUgMEETORUhWATTO
jGURAMUaT:jKURUZEIROgO:EgEESUeORUNAeOPOfSAIKURUfN]IMUhIR*GUg@]bOfDAASUeESIdORUeT:dN.OdOTTOf|ITU
fPAAS@TOfTUfBA&,UhPIASUTORUhKURUdOeBIRUeHU&ADDOgIITOgBUSSY,UiHUR.eEKUTA&UjPESOcNIHIgH,UTUgP@SUdEZI
fBEETAfPO*TOgBORUTOgH:dP:DOfHOORUcNeMAIKUROeRUdH|dRUKUeNSY:gIKUR:fRIaBA&UiEGAaT:fETORUhYAADOcRUeU.
eRITTORUfRAdUPIIdUBURUgEMUcNTOG@iWATTOmũOŊŌTE+ŊÆ Ƃ HOUR Z,Oe:EdïcĂfÝdđeħcīfE(fĸeT@dE+V@gTWELVE
fHIRTE@iÝTE@hIFTE@hħTE@gīTE@jE(E@iĸTE@iTƣa-:EdïcĂfÝzyŬ HPAdDAcAUcB&dOVcPCcDMaíDhCUBEDiIU
c,A NAME HEISEIgSYOUWAgTAISYOUhMEIZIoCORPORŧlPA AMPShNAcMU AdAcKAbBcMBcGBcC%dKC%ePFcNFcMU FbGdGcKG
cHZcKHZdMHZdGHZdTHZdMU LdLcDLcKLcFMcNMcMU MdMcCMcKMcMMíDkCMíDkMíDjKMíDkMM CUBEDiCM CUBEDiM CUBED
hKM CUBEDiMČ<aíDqPAcKPAdMPAdGPAdRADaČ<aíDsPScNScMU<dScPVcNVcMU VdVcKVcMV MEGAhPWcNWcMU WdWcKW
cMW MEGAhK OHMfM OHMfAMcBQcCCbDbČ KGiOcDBcGYc|bPc*cKKbM CAPIT%jTcLMbNbOGcXcMBƀhILcOLdPHbMbPMcRcSRbV
cWBcVČ MiAČ MpũOŊŌTE+ŊÆ Ƃ DAY :EdïcĂfÝdđeħcīfE(fĸeT@dE+V@gTWELVEfHIRTE@iÝTE@hIFTE@hħTE@gīTE@jE(E@
iĸTE@iTƣa-:EdïcĂfÝdđeħcīfE(fĸkŰa-:EzwŬ G%;6593kHEXAďM Ƃ Ɖ C_A]VE HEAV@p_CEP]VE E&TH
tDIFFICULTY AT Ɖ BEG*N*GzcYƱHFUL FOLLYoWAIT*GhC:FLICTiƉ &MYiHOLDêTOGƤ,qŝTAM*GmT_AD*GiPEACEfST.DS]LL
kFELLOWSHIPkG_AT POSSESSI:qMODESTYh@THUSIASMkFOLLOW*GjWORK : Ɖ DECAYEDtAPPROACHiC:TEMPLŧnBITêTHROUGH
oďCEfSPLITTêAP&Tp_TURNg*NOC@CEjG_AT TAM*GmMƱH ŻSnG_AT P_P:D,.CEtƉ ABYSM% WAT,nCL*GêFI_r*FLU@CEjDURŧ
i_T_AThG_AT POW,lPROG_SSiD&K@êOF Ɖ L(wƉ FAMILYkOPPOSI]:jBSTRUC]:lDELIV,.CEjC_ASEi*C_ASEiB_AKTHROUGH
mCOMêTO MEEToGATH,êTOGƤ,sPUSHêUPW&DoOPP_SSI:kƉ WELLi_VOLU]:kƉ CAULDR:i&OUSêTHUND,qKEEP*G<]LL MƓTA*
zbDEVELOPM@TlƉ M&RYêMAID@tABUND.CEjƉ W.D,,iG@T+ W*DlJOYOUS LAKEpDISP,SI:kLIMITŧk*N, TRUTHlŝP_P:D,.CE
tAFT, COMP+]:qBEFO_ COMP+]:;20993zfYI<YLLAB+ ITbXbaPbETbXbaPdATbXbaPcUOXbaPdOTbXbaPcEXbbWUcBITbXbaP
bETbXbaPdATbXbaPcUOXbaPdOTbXbaPcEXbaPcUTbXbaPbRXbcYTbXbaPbRXbdPITbXbaPbEXbaPdATbXbaPcUOXbaPdOTbXbaP
cUTbXbaPbRXbcYTbXbaPbRXbdBBITbXbaPbETbXbaPdATbXbaPcUOXbaPdOTbXbaPcEXbaPcUTbXbaPbRXbcYTbXbaPeNBITbX
baPbEXbaPdATbXbaPcOTbXbaPcUTbXbaPbRXbcYTbXbaPbRXbeHMITbXbaPbEXbaPdATbXbaPcUOXbaPdOTbXbaPcUTbXbaPbRX
bcYXbaPbRXbeMITbXbaPbEXbaPdATbXbaPcUOTbXbaPdOTbXbaPcEXbbUTbXbaPbRXbcYTbXbaPdFITbXbaPcATbXbaPcOXbaP
cUTbXbaPbRXbcYTbXbaPdVITbXbaPbETbXbaPdATbXbaPcOTbXbaPcEXbPcUTbXbaPbRXbcYTbXbaPbRXbdDITbXbaPbEXbaPdAT
bXbaPcUOXbcOTbXbaPcEXbaPcUTbXbaPbRXbd]TbXbaPbEXbaPdATbXbaPcUOTbXbaPdOTbXbaPcEXbaPcUTbXbaPbRXbdDDITbX
baPbEXbaPdATbXbaPcUOXbaPdOTbXbaPcEXbaPcUTbXbaPbRXbeNDITbXbaPbEXbcATbXbaPcOTbXbaPcEXbaPcUTbXbaPbRX
beHNITbXbaPbETbXbaPdATbXbaPcUOXbcOTbXbPcEXbaPcUTeNITbXbaPbEXbaPdAXbaPcUOXbaPdOTbXbaPcEXbaPcUTbXbaP
bRXbdHLITbXbaPbEXbaPdATbXbaPcUOXbaPdOXbaPcEXbaPcUTbXbaPbRXbcYTbXbaPbRXbeLITbXbaPbETbXbaPdATbXbaPcUOT
bXbaPdOTbXbaPcEXbaPcUTbXbaPbRXbcYTbXbaPbRXbdGITbXbaPbETbXbaPdATbXbaPcUOTbXbaPdOTbXbaPcETbXbaPcUTbX
baPbRXbdKITbXbaPbEXbaPdATbXbaPcUOXbaPdOTbXbaPcETbXbaPcUTbXbaPbRXbdGGITbXbaEXbaPdATbXbaPcUOTbXbaPdOT
bXbaPcETbXbaPcUTbXbaPbRXbeMGIEXbcATbXbaPcUOXbaPdOTbXbaPcEXbaPcUTbXbaPbRXbeHXITbXbaPbETbXbaPdATbXbaP
cUOTbXbaPdOTbXbaPcEXbaPeNGIEXbaPdATbXbaPcUOTbXbcOTbXbaPcEXbaPeHITbEXbcATbXbaPcUOTbXbaPdOTbXbaPcEXbaP
dWATbXbaPcUOXbaPdOXbaPcEXbaPdZITbXbaPbEXbaPdATbXbaPcUOXbaPdOTbXbaPcEXbaPcUTbXbaPbRXbcYTbXbaPbRXbdCIT
bXbaPbETbXbaPdATbXbaPcUOXbaPdOTbXbaPcEXbaPcUTbXbaPbRXbcYTbXbaPbRXbdZZITbXbaPbETbXbaPdATbXbaPcOXbaP
cEXbaPcUXbaPbRXbcYTbXbaPbRXbeNZITbXbaPbEXbaPdATbXbaPcUOXbcOXbPcEXbbUXbaPbRXbcYTbXbaPbRXbeSITbXbaPbEX
baPdATbXbaPcUOXbaPdOTbXbaPcEXbaPcUTbXbaPbRXbcYTbXbaPbRXbcSITbXbaPbEXbaPdATbXbaPcOTbXbaPcEXbaPcUTbX
baPcYTbXbaPbRXbeZ|TbXbaPcUOXbaPdOTbXbaPcETbXbaPcUTbXbaPbRXbcYTbXbaPbRXbeC|TbXbaPcUOTbXbaPdOTbXbaPcET
bXbaPcUXbaPbRXbcYTbXbaPbRXbeRRAXbbUOXbcOTbXbaPcETbXbaPcUTbXbaPbRXbcYTbXbaPbRXbeNRATbXbaPcOXbaPcETbX
baPcUTbXbaPbRXbcYTbXbaPbRXbeS|TbXbaPcUOXbaPdOTbXbaPcETbXbaPcUTbXbaPbRXbcYTbXbaPbRXbeRATbXbaPcUOXbaP
dOTbXbaPcEXbaPcUTbXbaPbRXbcYTbXbaPbRXbdJITbXbaPbETbXbaPdUOTbXbaPdOTbXbaPcUTbXbaPbRXbcYTbXbaPbRXbdQIT
bXbaPbETbXbaPdUOTbXbaPdOTbXbaPcUTbXbaPbRXbcYTbXbaPbRXbdJJITbXbaPbETbXbaPdUOXbaPdOTbXbaPcUTbXbaPbRX
bcYTbXbaPeNJITbXbaPbETbXbaPdUOXbcOTbXbaPcUXbaPbRXbcYTbXbaPbRXbdYITbXbaPbETbXbaPdUOXbaPdOTbXbaPcUTbX
baPeXITbXbaPbETbXbaPdUOXbcOTbXbaPcYTbXbaPbRXbdYITbXbaPbETbXbaPdUOTbXbaPdOTbXbaPcUTbXbaPbRXbcYTbXbaP
bRXb;4mRADIC% QOTdLIcKITdNYIPeCYPdSSIdGGOPdEPdMIcHXITeLYRdBBUTeMOPdYOcPUTdHXUOeTATdGAcZUPdCYTdDDUR
eBURdGGUOeNYOPeTUcOPcJJUTeZOTdPYTdHMOdYITdVURdSHYdVEPdZAcJOcNZUPeJJYdGOTdJJIEeWOcDUcSHUReLIEdCYbUOP
dIPdHXOPeS|TeZURdSHOPeŨdZZIETfNBIEeKE;10nLISUżBAcPAb|dDAcTAb|dGAcKAb|dJAcCAb|dDZAdTSAb|eMAcNAcLAcSA
cZ|cAcƻd|cXAcH|dFAcWAcS|dYAcG|dAaEcEaUcIbObUaEbHcOEcƥ MYA ]gNA POfMYA CYAdBOcNAcJEUtĀ ĨfĄ
zbVAI<YLLAB+ EEaNdHEEdWEEaNePEEdBHEEdEEdMBEEeKPEEeMGBEEfGBEEeFEEdVEEdTEEcHEEeDHEEcHEEf+Ed_EdDEEdNDEE
eSEEcHEEeZEEcHEEeCEEdJEEdNJEEeYEEdKEEdNGGEEfGEEdMEEdNEEcYEEeIaNcHIaNdWIaNdPIcBHIcIcMBIdKPIdMGBIeGBI
dFIcVIc]bHIdDHIbHIeLIcRIcDIcNDIdSIbHIdZIbHIdCIcJIcNJIdYIcKIcNGGIeGIcMIcNIbYIdAaNcNG.e|aNdWAaNdPAcB|
cAcMBAdKPAaNeMGBAeGBAdFAcVAcTAb|dD|b|eLAcRAcDAcNDAdSAb|dZAb|dCAcJAcNJAdYAcKAaNdNGGAeGAcMAcNAbYAdOOaN
dHOOdWOOaNePOOdBHOOdOOdMBOOeKPOOeMGBOOfGBOOeFOOdVOOdTOOcHOOeDHOOcHOOfLOOdROOdDOOdNDOOeSOOcHOOeZOO
cHOOeCOOdJOOdNJOOeYOOdKOOdNGGOOfGOOdMOOdNOOcYOOeUaNcHUaNdWUaNdPUcBHUcUcMBUdKPUdMGBUeGBUdFUcVUcTUbHU
dDHUbHUeLUcRUcDUcNDUdSUbHUdZUbHUdCUcJUcNJUdYUcKUcNGGUeGUcMUcNUbYUdOaNcNG:eHOaNdWOaNdPOcBHOcOcMBOdKPO
dMGBOeGBOaNeFOcVOcTObHOdDHObHOeLOcROcDOcNDOdSObHOdZObHOdCOcJOcNJOdYOcKOcNGGOeGOcMOcNObYOdEaNcNG@eHE
aNdWEaNdPEcBHEcEcMBEdKPEaNeMGBEeGBEaNeFEcVEcTEbHEdDHEbHEe+c_cDEcNDEdSEbHEdZEbHEdCEcJEcNJEdYEcKEcNGGE
aNfGEaNdMEcNEbYEcGc+NGTH@,tĨfĄjƇnSYLLAB+ NDO+ FAcKAcSOOqMBOL FE@GfKE@GfT*GeNIIdB.GeFAAdTAAdD.GdO:G
fKUNGeT:GeDO-OeJ:GlÖe:EdïcĂfÝdđeħcīfE(fĸkSYLLAB+ NDO+ MAcDO;21vCYRILLŌ$ZEMLYAv?ZEMLYAt$DZELOu?DZELO
s$ý[DZEzc?ý[DZEza$IOTAt?IOTAr$DJ,Vu?DJ,Vs$M:OŊ UKzc?M:OŊ UKza$BROA[ſzb?BROA[ſy$ƹ Y,zb?ƹ Y,
y$Y,U#Bƴ Y,zi?Y,U#Bƴ Y,zg$ǂYATzc?ǂYATza$ý[YUzb?ý[YUy$ǂAza?ǂAx$ŠĴ YUSzh?ŠĴ YUSzf$B+NDE[YUS
zb?B+NDE[YUSy$ǂŠĴ YUSzq?ǂŠĴ YUSzo$YNr?YNp$ý[TSEzc?ý[TSEza$SOFT DEw?SOFT DEu$SOFT ELw?SOFT EL
u$SOFT EMw?SOFT EMu$M:OCUL& Ozb?M:OCUL& Oy$B*OCUL& Ozb?B*OCUL& Oy$ĭM:OCUL& Ozi?ĭM:OCUL& O
zgÂMUL]OCUL& OzdOMB*êCYRILLŌVZMETfT@ MILLI:S~rHUND_[MILLI:S~vTHOUS.[MILLI:S~zqSLAV:Ōƍ
rĳCYRILLŌÂUKRA*I. IEmIbYIcUbH&D~jY,UeSOFT~jſmKAVYKAgPAY,OKzaYRILLŌKAVYKAgPAY,OKh$DWEs?DWEq$DZWE
t?DZWEr$ZHWEt?ZHWEr$CŨt?CŨr$DZZEt?DZZEr$TE#Ìàzj?TE#Ìàzh$TWEs?TWEq$TSWEt?TSWEr$TSSEt?TSSEr$TŨt?TŨ
r$HWEs?HWEq$SHWEt?SHWEr$ĭOx?ĭOv$òE[Oy?òE[OzgŀżCYRILLŌH&D~jSOFT~zjĳCYRILLŌÂEFcǂEzlBAMUMżAbKAcUbKUcEE
c_EdTAEdObNYIdIbLAcPAcRIIbEEe+EEEfMEEEEfTAAdNDAAdJAEMfMbSUUdMUcSHIIdIbHEUXeEUXeKYEEdETdNUAEcbJUAE
fYOQdSHUdYUQcAcNS|eKEUXePEUXeNJEEdTEEePUEdWUEdPEEdFEEdRUcLUcMIcNIc_UXdAEdK@dNGKWA@fGAcAdSHOdPUAEeFU
bOMdWAcNAcLIcPIcLOQdKOcMB@eR@dM@cAc]cKIcMObBAAeTETdKPAdT@dNTUUeSAMBAfFAAMAEgKOVUUdGHOM
nCOMB**GÕ KOQND:hTUKW@]SyNJAEMLIhĄjƦdMMAfSEMIƦjƇ;9tŀżCH*ESE ƥ Y* P*Gh.G P*Gi*<H.Gi.G<H.Gj* QUf.G QU
g* RUf.G RUuEXTRA-ĘßƕƥģzbĘßƕƥģuMI[ßƕƥģtĠßƕƥģtEXTRA-ĠßƕƥģtĘßƕƁzlĘßƕƁzfMI[ßƕƁzeĠßƕƁzeEXTRA-ĠßƕƁzeĘƁ
zeĘƁxMI[ƁwĠƁwEXTRA-ĠƁzdß ØģmSLĽfÊģsöăŻ .G+yƷUP/iÙ/kŇqĒŇzhĠĒŇzeST_SSÔĘƥjĠƥzkƶ$EGYPTOƬ%EFzi?EGYPTOƬ%EF
zg$EGYPTOƬA*zh?EGYPTOƬA*zf$H@Gt?H@Gr$TZr?TZp$T_SILLOx?T_SILLOv$CUATRILLOy?CUATRILLOw$CUATRILLO#Ĩ
zk?CUATRILLO#ĨziĝFbSw$AAr?AAp$AOr?AOp$AUr?AUp$AVr?AVp$AV#Êģzm?AV#Êģzk$AYr?AYp$ý[C#ßzj?ý[C#ßzh$KĞ
zd?KĞzb$K#ĩƈzm?K#ĩƈzk$KĞÔĩƈzx?KĞÔĩƈzv$BROK@ Lx?BROK@ Lv$L#HIGHƈzi?L#HIGHƈzg$O#L:GƈČLAYzq?O#L:GƈČLAY
zo$O#LOOPzb?O#LOOPy$OOr?OOp$PƠzv?PƠzt$P#FLOURƔzf?P#FLOURƔzd$P#SQUIR_L Őzk?P#SQUIR_L Őzi$QƠzv?QƠ
zt$Q#ĩƈzm?Q#ĩƈzk$R ROTUNDAy?R ROTUNDAw$RUM ROTUNDAzb?RUM ROTUNDAy$V#ĩƈzm?V#ĩƈzk$VYr?VYp$VISIGOTHŌZ
zc?VISIGOTHŌZza$THORNĞzh?THORNĞzf$THORNƠzza?THORNƠzx$V@Dt?V@Dr$ETr?ETp$ISr?ISp$C:s?C:wŀżUSsţDUMdLUM
dMUMdNUMdRUMqĝRUMy?TUMdUMp$*SUL& Dy?*SUL& Dw$*SUL& Fy?*SUL& Fw$*SUL& Gjõ*SUL& Gzg?õ*SUL& Gze$õLx?õL
v$*SUL& Ry?*SUL& Rw$*SUL&<y?*SUL&<w$*SUL& Ty?*SUL& TzdŀżĠÐłvƦfŁ ŎS~ziƶ$S%]LLOx?S%]LLOv$õHx?L#ñÔBELT
zs+TT,<*OƬßw$Nězg?Něze$C#B&za?C#B&dP%AT% àtHĬzh$B#FLOURƔzf?B#FLOURƔzd$FĞzd?FĞzb$VOLAPUK AE
za?VOLAPUK AEx$VOLAPUK OEza?VOLAPUK OEx$VOLAPUK UEza?VOLAPUK UEx$G#OBLIQUEƈzl?G#OBLIQUEƈ
zj$K#OBLIQUEƈzl?K#OBLIQUEƈzj$N#OBLIQUEƈzl?N#OBLIQUEƈzj$R#OBLIQUEƈzl?R#OBLIQUEƈzj$S#OBLIQUEƈ
zl?S#OBLIQUEƈzj$H#àlý[şEpSńGiL#BELTlŝÒIzfĝQw$õKbTiJ#òED-ŐtCHIdBETAt?BETAr$ſu?ſs$UĞzd?UĞzb$GLOTT% A
y?GLOTT% Aw$GLOTT% Iy?GLOTT% Iw$GLOTT% Uy?GLOTT% Uw$OL[POLƔ Ozc?OL[POLƔ Oza$.GLIC.A Wzb?.GLIC.A W
y$CĬtS#àlZĬtD#ŁƈČLAYzr?D#ŁƈČLAYzp$S#ŁƈČLAYzr?S#ŁƈČLAY;6zp$Š*SUL& Gzg?Š*SUL& G;2qĭTHORN;2fWYNN
y$MIDD+<COTS<ze?MIDD+<COTS<zc$SIGMOID<y?SIGMOID<;25zdŀżÒCbFbQzaƶ$ý[ęHzf?ý[ęHzdEPIŊŌ+TT,<ũWAYS I
zjŀżÒHĞvŝLĿOEziƶĝõMzeEPIŊŌÂý[FbPkĒMj L:GAh&C|ŌMziSYLO] NAGRIżAbIiðDVISV&AnÂUbEbOið|S.TAmÂKObHOdGObHO
kðĜnÂCObHOdJObHOdTTObHOeDDObHOeTObHOdDObHOdNOcPObHOdBObHOdMOcROcLOcRROdSOcHOjäAbIbUbEbOOnPOETRYÕ-1b2
b3b4nðĻE |S.TA;4zkNORTH *DŌƗņhH%FiTĂņSo:E<IXTE@THjE(HkTĂ<IXTE@THSzaQU&T,ÕmPLACEHOLD,ÕqRUPEEÕkQU.]TYÕ
;7zaP|GS-PAżKAb|dGAcƻdCAb|dJAcNYAdTAb|dDAcNAcPAb|dBAcMAcTSAb|eDZAdWAcZ|cAcŝAhYAcRAcLAcS|cAc|cAbIbUbE
bObQAcXAcFAcGGAdEEjSUBJO*E[ÂWAcYAtÂTTAb|eDDAdNNAdĻE YAmVOICE+SS<|i[|jASPIRAƕFAtSUBJO*E[ÂRA
rP,FIXE[ÂRAuÂğsS*G+ HEA[M&KqĭHEA[M&KqM&K<|DeÁ<|D;9zaSAURĽTRA~ ĜiľmÂAaAcIaIcUaUcüaRcLaLkEaEcAIcOaOcAU
cKAb|dGAb|dƻdCAb|dJAb|dNYAdTTAb|eDDAb|eNNAdTAb|dDAb|dNAcPAb|dBAb|dMAcYAcRAcLAcVAcS|cSAcAc|cLLAkƝ|&U
uäAAcIaIcUaUcüaRcLaLkEaEcAIcOaOcAUnðšgğ;9qD.DAeƘlIGIT Z,Oe:EdïcĂfÝdđeħcīfE(fĸ;7vĳDEV.AG&I Öe:EdïcĂfÝ
dđeħcīfE(fĸkÂAbUbKAcNAcPAcRAcVIjðAVAď|zjDEV.AG&I~<PACêğtğ šsĭğ šzağ ïcĂfAVAď|uPUSHPIKAnGAP FIL+R
kC&ETfĦSÉkSIGN<IDD|MmJA* OMhÂAYjäAYyKAYAH LI Öe:EdïcĂfÝdđeħcīfE(fĸkÂKAb|dGAcƻdSAb|dZAcNYAdTAcHTAdNA
cPAb|dMAcDAcBAcRAcYAcLAcWAcT|d|cVAcCAcAbOEcIbOOjVOWEL UEcEbUbEEcOhƥ PLOPHUgC%YAa PLOPHUrðCWIdSHYA
s_J.GżKAcGAcƻdTAcDAcNAcPAcBAcMAcCAcJAcNYAdSAcRAcLAcYAcWAc|cMBAdNGGAdDAcYJAeAiäIbUbEbAIcObAUcEUbAnƝNG
bbRbHqš;12gSECĈtH.GUL CHOSE:G ź-MîMfŶfŉeCîCmRîL-ġgưġlźgưźlMîMfŶfưŶkKAPYEƓŶnŉeCîCfKŢKHnMîM-ġgźgŉ
kŶ-ŉ-TŢTHmKŢKHhŢHlưŉ-ŶpîNG-RîLfŢHlưCîC-ŢHlTŢTHmPŢPH-ŢHnŢH-ŉkưYEOR*ŢH;4zhJAV.ESE~ P.Y.GGAjCECAKfLAY&
fWIGNY.mÂAbI KAWIfaIcUbPA C,EKiƻ ++Ta RASWADIrEbAIcObKAa<ASAKfMURDAiGAa MURDAiƻdCAa MURDAiJA
cNYA MURDAjJA MA|PR.AmNYAdTTAa MA|PR.AnDDAa MA|PR.AnNA MURDAiTAa MURDAiDAa MA|PR.AmNAcPAa MURDAiBA
a MURDAiMAcYAcRAa AGUNGiLAcWAcSA MURDAeA|PR.Akc|jðCECAK TELUpäT&UNGfOL:GgWULUa MELIKkSUKUa M@DUT
lT%*GgDIRGA MU_kPEPETqƝK,ETfP@GK%hCAKRAuP.GK:hÎR,@GG.oăR,@GG.pPADA .DAPfMADYAfLUHURfW*DUfP.GKAT
hL*GSAfUNGSIgADEGa ADEGjPISE+HmõPADA PISE+H;2tP.GR.GKEPlÖe:EdïcĂfÝdđeħcīfE(fĸ;5kPADA ]RTA TUMETES
nIS@-IS@xMY.M& +TT,<H. G|dC|dJ|dNNAdB|pSIGN<H.<AWnŀ +TT,<H. _DUPLICŧzjÂTAI LAêNYAdFAcGAb|dJAb|dDDAb|
eNNAuTAI LAêÖe:EdïcĂfÝdđeħcīfE(fĸuÂTAI LAêLLAdDAb|dBAb|;2zdC|MżAbIbUbEbAIcObKAb|dGAb|dNGUEcAdC|b|eJA
b|dNHUEcAbJAeTAb|dDAb|dNUEcAcDDAdPAbPAc|dBAb|dMUEcAcBBAdYAcRAcLAcVAcSSAcAc|jäAAcIaIcEIcUbOEbbAIbUcUE
nƝYAcRAcLAcWA;10rÂF*% KbGbNGpƝF*% NGxÂF*% CHcTbNbPbYbRbLbSSpƝF*% MbH;3wÖe:EdïcĂfÝdđeħcīfE(fĸ
;3kĀ<PIR%gD.DAeƘmő D.DAzeMY.M&żK|M] GAcCAb|dJAb|dNYAdTTAb|eDDAb|d|dNAcSAc|b|dFAqŀżK|M] _DUPLICŧ
zlÂK|M] XAcZAcRApOGOďM K|M] OAYdQNcHMsSYMBOL AIT: EXCƚŧl:EdïqÂAIT: RApðPAO K&@ ƥoTAI LAêƥ-2b5
v+TT,<HWE P%AUNG C|dS|zgTAI VIETżĠKOgĘKOhĠKHOhĘKHOiĠKHHOiĘKHHOjĠGOgĘGOhĠNGOhĘNGOiĠCOgĘCOhĠCHOhĘCHO
iLOW<OgHIGH<OhĠNYOhĘNYOiĠDOgĘDOhĠTOgĘTOhĠTHOhĘTHOiĠNOgĘNOhĠBOgĘBOhĠPOgĘPOhĠPHOhĘPHOiĠFOgĘFOhĠMOgĘMO
hĠYOgĘYOhĠROgĘROhĠLOgĘLOhĠVOgĘVOhĠHOgĘHOhĠOfĘOnMAI K.GiVOWEL AAcIbUEbbEbOhMAI KHITiVOWEL IAcUEAcA
cAUEcYbNbMiƥ MAI EKcNU@GfTHOdS:G;25nSYMBOL K:dNU@GfSAMdHO HOIgKOI KOIxMEETEI MAYEKżEbObC|dNYAdTTAb|
eDDAb|eNNAdS|cSAkäIIcUUcAAIcUbAUoŨIKH.iAH.G KHUDAMlNJIeSYLLAB+ _PE]ĈyWOR[_PE]ĈuäľrIRAMA
;11tƤIOPIC<YLLAB+ TTHUbIbAAcEEbbO;3eDDHUbIbAAcEEbbO;3dZUbIbAAcEEbbO;10dCCH|bUbIbAAcEEbbO;2fBBAbUbI
bAAcEEbbO;2vţB&_[%P|mA ýD-SCHWAqÅÂEm&_[EiE#FLOURƔp+NIS FhSńG#òED-ŐzbL#ĒLAZY<pĭÌĚtÌR*GsM#òED-Ő
tN#òED-Őt@G#òED-ŐvÅÂOaĞzaşOĞsĒOElõOEĞgÊƈy OP@-OaĞzcS]RRUP RwĝR#ă+Gzm?R WITHƱ H.D+qĭRiR#òED-Ő
tĭR#òED-ŐzbSńRa#R*GsBASEŜ ESHmU#Ł ă+GuB&#Ł ă+GzaIcõUIjU#ÎàqCHIa#ĠăR*Gkā<,IFxX#ĠăR*GmNG Î+GaÔĠăR*G
sWITH<,IFzgY#Ł ă+Gzqŀ ŵ#Ēŵza+TT,<áH@GeL#ĒLAZY<pÌĚtU#ÎàznţSAK| YATjǂEkşOEhUOcĒ%P|ziG_EK ĝſzhţDZ DIŊ#ñ
zfTS DIŊ#ñzeURNE[R#ÌĚzuŀ +TT,<áõWoÎTƴjăTƴ;5zbCH,OKEE<M%!AbEbIbObUbVbGAcKAcGEbIbObUbVc|bEbIbObUbVcLA
bEbIbObUbVcMAbEbIbObUcNAcHNAdNAHcEbIbObUbVcQUAbEbIbObUbVdSAbaEbIbObUbVcDAcTAcDEcTEcDIc]cDObUbVbLA
dTLAbEbIbObUbVcSAbEbIbObUbVdWAbEbIbObUbVcYAyMEETEI MAYEKżKOKdSAMdLAIdMITdPAcNAcCHILe]LdKHOUeNGOU
eTHOUeWAIdY.GeHUKdUNcIbP|MeA]YAfGOKdJ|MeRAIdBAcJILdDILdGHOUeDHOUeB|MeKOK L:SUMkLAI L:SUMkMIT L:SUM
kPA L:SUMjNA L:SUMj]L L:SUMkNGOU L:SUMlI L:SUMpä:APe*APe.APeY@APfSƓAPgUNAPeŨ*APhNUNGpŨIKHEIiLUM IYEK
iAPUN IYEK;3jÖe:EdïcĂfÝdđeħcīfE(fĸ;11191xH.GUL JUNGSE:G O-YEOdO-IfYO-AaEcEOfU-YEOdI-IfYU-AEcOeEU-A
bEObbOeI-YA-OcEcEObcO-IdYObUcId&AEA-AbE;5q:GSE:G NîN-RîLfCŢCHnưźa-Ŷrź-Ŷfŉa-ġlCîCeŢCHhTŢTHoRîL-ưġ
lġ-ŢHsưRîL-KŢKHsRîL-MîM-ŢHlŶ-źgPŢPHnYESîNGgOR*ŢH-ŢHxKAPYEƓRîLnMîM-NîNfưNîNqưMîMkMîM-Ŷ-ŉkCîClŶ-ź
gRîL-PŢPHnMîMlưŶkŶ-ŉ-źlCîCeŢCHnŉ-MîMfKAPYEƓŶrS.Gŉ-ġgźpIOS-P.ŉhCîCeŢCHhTŢTHhŢHkP.ŉ-ŶfKAPYEƓŶ
vYESîNG-MîMfŢHoCîC-ŶfưŶqưCîCkPŢPH-ŉeTŢTH;8453zhCJK COMPA]BILITY ũOŊ-F900b1b2b3b4b5b6b7b8b9bAbBbCbDbE
bFc10b1b2b3b4b5b6b7b8b9bAbBbCbDbEbFc20b1b2b3b4b5b6b7b8b9bAbBbCbDbEbFc30b1b2b3b4b5b6b7b8b9bAbBbCbDbE
bFc40b1b2b3b4b5b6b7b8b9bAbBbCbDbEbFc50b1b2b3b4b5b6b7b8b9bAbBbCbDbEbFc60b1b2b3b4b5b6b7b8b9bAbBbCbDbE
bFc70b1b2b3b4b5b6b7b8b9bAbBbCbDbEbFc80b1b2b3b4b5b6b7b8b9bAbBbCbDbEbFc90b1b2b3b4b5b6b7b8b9bAbBbCbDbE
bFcA0b1b2b3b4b5b6b7b8b9bAbBbCbDbEbFcB0b1b2b3b4b5b6b7b8b9bAbBbCbDbEbFcC0b1b2b3b4b5b6b7b8b9bAbBbCbDbE
bFcD0b1b2b3b4b5b6b7b8b9bAbBbCbDbEbFcE0b1b2b3b4b5b6b7b8b9bAbBbCbDbEbFcF0b1b2b3b4b5b6b7b8b9bAbBbCbDbE
bFdA00b1b2b3b4b5b6b7b8b9bAbBbCbDbEbFc10b1b2b3b4b5b6b7b8b9bAbBbCbDbEbFc20b1b2b3b4b5b6b7b8b9bAbBbCbDbE
bFc30b1b2b3b4b5b6b7b8b9bAbBbCbDbEbFc40b1b2b3b4b5b6b7b8b9bAbBbCbDbEbFc50b1b2b3b4b5b6b7b8b9bAbBbCbDbE
bFc60b1b2b3b4b5b6b7b8b9bAbBbCbD;3c70b1b2b3b4b5b6b7b8b9bAbBbCbDbEbFc80b1b2b3b4b5b6b7b8b9bAbBbCbDbEbF
c90b1b2b3b4b5b6b7b8b9bAbBbCbDbEbFcA0b1b2b3b4b5b6b7b8b9bAbBbCbDbEbFcB0b1b2b3b4b5b6b7b8b9bAbBbCbDbEbF
cC0b1b2b3b4b5b6b7b8b9bAbBbCbDbEbFcD0b1b2b3b4b5b6b7b8b9;39zhLAT*<áLĿFFbIbLbFIbLdL:G< TiST
;13x&M@I.<áLĿM@ NOWdECHd*IhVEW NOWhM@ XEH;6zgHEB_WżYOD#HIRIQvPO*T JUDEO-SP.Ɣ V&IKA
zbLĿYIDDƔ YO[YO[PATAHzeETT, %T,NA]VE AY*qWũ %EFeD%ETfHEcKAFdƚEDfF*% MEMj_SHeTAVi%T,NA]VE Ɩ~
vSH*#SH* ßh* ßhDAGESH .D<H* ßh* ßzd%EF#PATAHfQAMATSgMAPIQpBETƒpGIMELƒrD%ETƒrHE#MAPIQnVAVƒpZAY*ƒ
;2rTETƒpYODƒpF*% KAFƒvKAFƒpƚEDƒ;2rMEMƒ;2pNUNƒpSAMEKHƒ;2sF*% PEƒuPEƒ;2oTSADIƒrQOFƒp_SHƒqSH*ƒqTAVƒ
pVAV#HOƚoBET#RAFEnKAF#RAFEnPE#RAFEsĿ%EF ƚEDzb&ABŌÂ%EF WASLA=nÛvBEEH=nÛk×mĵqPEH=nÛk×mĵpBEHEH=nÛk×mĵ
rTTEHEH=nÛk×mĵrEHEH=nÛk×mĵqTEH=nÛk×mĵqVEH=nÛk×mĵpPEHEH=nÛk×mĵrDYEH=nÛk×mĵqNYEH=nÛk×mĵqTŨH=nÛk×mĵmEH=
nÛk×mĵtDDAH%=nÛqAH%=nÛpUL=nÛnD%=nÛpJEH=nÛoR_H=nÛpKEHEH=nÛk×mĵrGAF=nÛk×mĵoUEH=nÛk×mĵqNGOEH=nÛk×mĵ
qO: GHUNNA=nÛwRNO:=nÛk×mĵrHEH#YEH>=nÛzaGO%=nÛk×mĵqDOAC|SHMEE=nÛk×mĵzcYEHģ_E=nÛkWITH |MZA>=nÛ
zuSYMBOL ß>fŤjƛ>fŤnĂē>fŤfÈǃ>fŤzkÝē>fŤpĭØģÀzaƛ ØLY>fŤzaR*GeŝTAH>fŤpWASLA>;17sÂNG=nÛk×mĵoU=nÛmOE=nÛ
nYU=nÛnU#|MZA>=zhVE=nÛnKIRGHIZ OE=nÛnYU=nÛvE=nÛk×mĵnUIGHUR KAZAKH KIRGHIZ Ï ×mĵzzcĿYEH#|MZA>#%EF=nÛ
oE=nÛnWAW=nÛoU=nÛmOE=nÛnYU=nÛnE=nÛk×zpUIGHUR KIRGHIZ YEH#|MZA>#Ï=nÛk×zzyETT, F&SI YEH=nÛk×mĵ
zcĿYEH#|MZA>ı=s|H=r÷=sÏ=zbYEH=zsBEHı=s|H=rK|H=s÷=sÏ=zbYEH=zbTEHı=s|H=rK|H=s÷=sÏ=zbYEH=zaHEHı=s÷=sÏ=
zbYEH=zcJEEM#|H=r÷=zd|Hı=s÷=zcK|Hı=s|H=r÷=zdSE@ı=s|H=rK|H=s÷=zcAD#|H=r÷=zcDADı=s|H=rK|H=s÷=zcTAH#|H=
r÷=zcZAH#÷=zcA*ı=s÷=zcG|*ı=s÷=zeFEHı=s|H=rK|H=s÷=sÏ=zbYEH=zbQAF#|H=r÷=sÏ=zbYEH=zbKAF#%EF=sJEEM=s|H=
rK|H=sƚ=r÷=sÏ=zbYEH=zbƚı=s|H=rK|H=s÷=sÏ=zbYEH=zb÷ı=s|H=rK|H=s÷=sÏ=zbYEH=zcNO:ı=s|H=rK|H=s÷=sÏ=zbYEH=
zcHEHı=s÷=sÏ=zbYEH=zbYEHı=s|H=rK|H=s÷=sÏ=zbYEH=zbTH%#SUP,Sń%EF=zp_H#SUP,Sń%EF=zoÏ#SUP,Sń%EF=
zxS|DDA#DƮT.=wKASRAT.=wFAT|=tDƮ=tKASRA=tSUP,Sń%EF=zrYEH#|MZA>#_H ÛoZA* Ûp÷ ÛpNO: ÛpƆxĖzpBEH#_H Û
oZA* Ûp÷ ÛpNO: ÛpƆxĖxTEH#_H ÛoZA* Ûp÷ ÛpNO: ÛpƆxĖwHEH#_H ÛoZA* Ûp÷ ÛpNO: ÛpƆxĖyFEH#ƆxĖxQAF#ƆxĖ
xKAF#%EF Ûpƚ Ûo÷ ÛpƆxĖxƚ#÷ ÛpƆxĖx÷#%EF Ûp÷ ÛzaNO:#_H ÛoZA* Ûp÷ ÛpNO: ÛpƆxĖyÏ#SUP,Sń%EF ÛzuYEH#_H Û
oZA* Ûp÷ ÛpNO: ÛpƆxĖo|MZA>ı ×rƄqKƄrŹrHEH ×zrBEHı ×rƄqKƄrŹrHEH ×zaTEHı ×rƄqKƄrŹrHEH ×yHEH#ŹzcJEEM#ƄqŹ
zc|Hı ×rŹzbK|Hı ×rŹzcSE@ı ×rƄqKƄrŹzbAD#ƄqKƄrŹzbDADı ×rƄqKƄrŹzbTAH#ƄzaZAH#ŹzbA*ı ×rŹzbG|*ı ×rŹ
zdFEHı ×rƄqKƄrŹzbQAF#ƄqŹzbKAFı ×rƄqKƄrƚ ×qŹzbƚı ×rƄqKƄrŹrHEH ×za÷ı ×rƄqKƄrŹzcNO:ı ×rƄqKƄrŹrHEH ×
zbHEHı ×rŹrSUP,Sń%EF ×znYEHı ×rƄqKƄrŹrHEH ×pAMZA>#÷ ĵqHEH ĵzqBEH#÷ ĵqHEH ĵyTEH#÷ ĵqHEH ĵxHEH#÷ ĵ
qHEH ĵzaSE@#÷ ĵqHEH ĵyHE@#÷ ĵqHEH ĵzbKAF#ƚ ĵp÷ ĵzaƚ#÷ ĵzaNO:#÷ ĵqHEH ĵzaYEH#÷ ĵqHEH ĵyS|DDA#FAT| ĵ
rDƮ ĵrKASRA ĵzeTAH#Ï=zbYEH=zbA*#Ï=zbYEH=zbG|*#Ï=zbYEH=zdSE@#Ï=zbYEH=zbHE@#Ï=zbYEH=zd|H#Ï=zbYEH=
zbJEEM#Ï=zbYEH=zcK|H#Ï=zbYEH=zcSAD#Ï=zbYEH=zbDAD#Ï=zbYEH=zbǁ@ı=s|H=rK|H=s÷=s_H=zcE@#_H=zbAD#_H=
zbDAD#_H=zbTAH#ƆxĖxA*#ƆxĖxG|*#ƆxĖzaSE@#ƆxĖxHE@#ƆxĖza|H#ƆxĖxJEEM#ƆxĖyK|H#ƆxĖySAD#ƆxĖxDAD#ƆxĖxǁ@ı Û
p|H ÛoK|H Ûp÷ Ûp_H ÛyE@#_H ÛxAD#_H ÛxDAD#_H Ûxǁ@ı ×rƄqKƄrŹzcE@#HEH ×zaHE@#HEH ×zcTAH#ŹzbSE@ı ĵq|H ĵ
pK|H ĵzaHE@ı ĵq|H ĵpK|H ĵzcTAH#÷ ĵzaZAH#÷ ĵza%EF#FAT|T. ÛkISOLATED)zxORNATE Îúqăú
y&ABŌLĿRAHIMAHU %LAAHnDI %LAAHU .HaAAcUMaAAdNNAuS%L%LAAHU %AYHI WA-A%IHzc%AYHI AS-S%AAMkM AS-S%AAM
kAA AS-S%AAMn AS-S%AATU WAS-S%AAMzdQUDDISA<IRRAHoS%L%LAHU %AYHI WAA%IHEE WA-S%ƚzm%AY|A AS-S%AAM
rTABA&AKA WA-TAA%AAuRAHIMAHUM %LAAHqTEHı#Źzc|Hı Ûk×rŹzbK|H#Źzc÷ı ×rƄqKƄzlJEEM#÷#|H Ûk×zl|H#÷#ĖoƆ
zrSE@#|Hı ×zbJEEM#ƄqƆzi÷#|H Ûk×qJEEM ×r÷ Ûk×zlAD#|H#|H Ûk×za÷#÷ ÛziHE@#|H#÷ Ûk×zbJEEM#Ėy÷#K|H Ûk×
r÷ Ûk×znDAD#|H#ƆzhK|H#÷ Ûk×zlTAH#÷#|H Ûk×qŹrĖziA*ı#÷ Ûza÷#÷ Ûk×rƆzrG|*#÷#÷ ÛpĖoƆztFEH#K|H#÷ Ûk×
zlQAF#÷#|H Ûo÷ Ûzjƚ#|H#÷ ÛpĖoƆzhJEEMı ×mÛzaK|H#÷ Ûk×zc÷#|H Ûk×zk÷#|Hı ×rŹrĖxJEEM#ƄqŹzcK|Hı ×rŹ
;3zcJEEM#KƄzmHEH#÷ı ×rŹzlNO:#|H#ŹrƆzhJEEM#÷ Ûk×rƆzi÷#ĖoƆzsYEH#÷#÷ Ûk×zlBEH#K|H#ĖziTEHı#ĖoƆziK|H#ĖoƆ
zi÷#ĖoƆzrJEEM#÷#Ėy|H#Ɔzh÷#ƆzsSE@#K|H#ƆzrAD#|H#ĖzgHE@#|H#ĖzjDAD#|H#Ėzhƚı#Ėy÷#ĖziYEH#|H#ĖxJEEM#Ėy÷#Ė
zi÷#÷#ĖzjQAF#÷#ĖziNO:#|H#ĖziQAF#÷#Ƅzkƚ#|H#ŹzkA*#÷#ĖziKAF#÷#ĖziNO:ı#Ƅzl÷#K|H#Ėzjƚı#ŹzlKAF#÷#÷ Û
zjƚı#÷ ÛzjNO:ı#|H ÛzjJEEM#|H#Ėzi|Hı#Ėzi÷ı#ĖzjFEH#÷#ĖziBEH#|H#ĖzhKAF#÷#ŹzlA*ı#ŹzlSAD#÷#ŹzkE@#K|H#Ė
zjNO:ı#Ė;8zjS%AAMUHU %AYNAA;33oLA USE[AS KOR.IC<TOP~=zuQ%A USE[AS KOR.IC<TOP~=zt%LAH=sKB&=tMO|MMAD=
wS%AM=tRASOUL=u%AYHE=uWAS%ƚ=wS%LA=oLLAHOU %AYHE WAS%ƚzcJ%LAJ%%OUHOUzgRI%~
j&ABŌLĿBISMILLAH &-RAHM. &-RAHEEMzeSUB|.AHU WA TAA%AAvAZZA WA J%Lzdŗ]:<E+CTOR-1b2b3b4b5b6b7b8b9b10b1
b2b3b4b5b6vP_S@Tŧ) Ƃ Ø ĨfũOŊŌĨfĄvƦfSEMIƦjŇqƇnÎŘ+N]CUL&ÃzeăŘ+N]CUL& BRAKCETzfÊ ELLIPSIS;7zzaĳLĿÎH%F
jăH%FtĭĚ ÎH%FjăH%Fxĕ ÎH%FjăH%FrC:JO*êĕrLĿÎH%FÀpăH%FÀzaĚ ÎH%FÀpăH%FÀwĕ ÎH%FÀpăH%FÀxC:JO*êĕÀ
wYRILLŌ]TLO ÎH%FjăH%FzkP_S@Tŧ) Ƃ Ø ï ß +AD,oEM DĽgN DĽhĠŜiWAVY ĠŜnÎúqăúrÎƅsăƅtÎčzcăčzdÎŴ+N]CUL&Ã
zeăŴ+N]CUL&ÃzfÎĭ.G+Ãzaăĭ.G+ÃzbÎ.G+Ãsă.G+ÃtÎŻÃtăŻÃuÎŘŻÃzaăŘŻÃzzhSESAME ßkÇ<ESAME ßqP_S@Tŧ) Ƃ Ø āíÃ
tR(íÃzzbDĽE[OV,ŜpŕŜČŜtWAVYČŜnĭWAVYČŜtĽE[ĠŜpŕŜ ĠŜtWAVY ĠŜnŝĨfũOŊŌĨrĄ;2jSEMIƦjƦfƇnŇpM DĽhÎúqăúrÎƅsăƅ
tÎčzcăčzdNUMB,~lAMP,S.DiST,ISKiƖ~jHYPH@-M*USmô~oè~rŎS~;2lýƎpDOLL&~lP,C@T~mCOMM,CI% AT;5t&ABŌFAT|T.=
wTATWEEL#FAT|T.>zcDƮT.=wŐ FRAGM@TnKASRAT.=;2wFAT|=nĵrDƮ=nĵrKASRA=nĵrS|DDA=nĵrUKUN=nĵrÂ|MZA=
t%EF#MADDA>=nÛw|MZA>=nÛzhWAW#|MZA>=nÛzg%EF#|MZAÀ=nÛzhYEH#|MZA>=nÛk×mĵzh%EF=nÛpBEH=nÛk×mĵpTEH M&BUTA=
nÛsISOLATED)nÛk×mĵoHEH=nÛk×mĵqJEEM=nÛk×mĵq|H=nÛk×mĵpK|H=nÛk×mĵqD%=nÛoTH%=nÛp_H=nÛoZA*=nÛpSE@=nÛk×mĵ
pHE@=nÛk×mĵqAD=nÛk×mĵpDAD=nÛk×mĵpTAH=nÛk×mĵpZAH=nÛk×mĵpA*=nÛk×mĵpG|*=nÛk×mĵrFEH=nÛk×mĵpQAF=nÛk×mĵ
pKAF=nÛk×mĵpƚ=nÛk×mĵp÷=nÛk×mĵqNO:=nÛk×mĵqHEH=nÛk×mĵpWAW=nÛoÏ=nÛxYEH=nÛk×mĵvĿƚ#%EF#MADDA>=nÛw|MZA>=nÛ
qŤ=nÛzcISOLATED)nÛ;3zpZ,O WIDTH NO-B_AK<PACE;2zaFULLWIDTH ŇqŅoNUMB,~lDOLL&~lP,C@T~mAMP,S.DiPOSTROPHE
kÎúqăúrƍiƖ~jĨfHYPH@-M*USmĄjSOLIDUShÖe:EdïcĂfÝdđeħcīfE(fĸkƦfSEMIƦjô~oŎS~lè~rƇnCOMM,CI% ATnƶ$AbBbCbDbE
bFbGbHbIbJbKbLbMbNbObPbQbRbSbTbUbVbWbXbYbZvEFTíÃtýƎo(íÃuÐłrĠŜiŃłmţAbBbCbDbEbFbGbHbIbJbKbLbMbNbObPbQ
bRbSbTbUbVbWbXbYbZtEFT ƅsØ ŜnăƅtĚfÎŘúwăŘúziH%FWIDTH ũOŊŌĄvÎŻÃtăŻÃuũOŊŌĨrKATAK.A ÌßkÂWOcŝAbIbUbEbObYA
bUbOcTUq-HIRAG.A PROL:GED<Ɠ[M&KzfżAbIbUbEbObKAbIbUbEbOcSAbIbUbEbOcTAbIbUbEbOcNAbIbUbEbOc|bIbUbEbOcMA
bIbUbEbOcYAbUbOcRAbIbUbEbOcWAcNiƳrSEMI-ƳzgH.GUL FIL+RgÂġgưġlġ-ŉlNîNa-CîCfŢHlźgưźlRîLa-ġgMîMfŶfŉeTŢTH
hPŢPHhŢHlMîMfŶfưŶkŶ-ŉkŉdS.GŉjîNGfCîCfưCîCkCŢCHhKŢKHhTŢTHhPŢPHhŢH;4fAaEcYAaEdEOb;3bYEObcObWAaEdOE
;3cYOcUbWEObbIcYU;3cEUcYIcI;4zaFULLWIDTH C@T~jPƓD~kNOT~iĕgBROK@ģkY@~iW:~;2sH%FWIDTH)S L( Øuž/pUP^/nį
qǃ/pÅímŘË;11w*T,Ŝ& .NOTŧ .CHORgSůjT,M*ATORziOBJECT _PLACEM@T ơzd_PLACEM@T ơ;3vŜ& B<YLLAB+ B008 A
e38 Ee28 Ie61 Oe10 Ue01 DAf45 DEf07 DIf14 DOf51 DUe7 JAf46 JE;2f36 JOf65 JUf77 KAf44 KEf67 KIf70 KO
f81 KUe0 MAf13 MEf73 MIf15 MOf23 MUf06 NAf24 NEf30 NIf52 NOe5 NUf03 PAf72 PEf39 PIf11 POf50 PUf16 QA
f78 QEf21 QIf32 QO;2f60 RAf27 _f53 RIf02 ROf26 RUf31<Af09<Ef41<If12<Of58<Ue9 TAf04 TEf37 ]f05Ʃf69 TU
f54 WAf75 WEf40 WIe2 WO;2f17 ZAf74 ZE;2f20 ZOe5 A2f43 A3f85 AUf71 DWEg90 DWOg48 NWAg29 PU2g62 PTE
g76 RA2g33 RA3g68 RO2f6 TA2g87 TWEg91 ï;3pMBOL B018b9c22c34c47b9c56c63b4c79c82b3b6b9;35lũOďM B100 M.
f2 WOM.h4 DE,g5 EQUIDgF M&EgM<T%LI:l6F EWEfM RAMg7F<HE-GOATkM HE-GOATk8F<OWfM BO&h9F COWfM BULL
i20 WHEATh1ģ+Yi2 OLđh3<PICEh5 CYP,USvM:OďM B127 KAPOg8 K.AKOuũOďM B130 OILf1 W*Eg2nM:OďM B133 &EPA
h5 M,IsũOďM B140 BR:ZEi1 GOLDg2b5 WOOLg6c50b1 HORNg2b3b4nM:OďM B156 TURO2tũOďM B157b8b9 CLOTHi60b1
b2 G&M@Tj3 &MOURi4b5b6b7b8b9c70b1b2b3 M:THh4b6 T_Eg7b8b9c80b1b2b3b4b5b9c90b1 HELMETk220 FOOTSTOOL
l5 BATHTUBk30<PE&h1/h2b3<WORDh4b6c40 WHEE+[CH&IOTr1 CH&IOTj2 CH&IOT FRAMEp3 WHEELh5b6
nM:OďM B247 DIPTEtũOďM B248b9c51b2b3b4 D&Tg5b6b7b8b9eVESSEL B155d200b1b2b3b4b5b6b7b8b9c10b1b2b3b4b5
b6b7b8b9c21b2b6b7b8b9c50d305;6zeAEGE. WORD<ů ŜeßsŨCKÕ;5kė:EdïcĂfÝdđeħcīfE(fĸeT@cƣfŰgƂTYeIFTYfħTYeīTY
hE(YgĸTYg:EÑlïÑkĂÑnÝÑlđÑmħÑkīÑnE(ÑnĸÑm:EƧmïƧlĂƧoÝƧmđƧnħƧlīƧoE(ƧoĸƧnT@ƧlƣƧoŰƧpƂTYƧnIFTYƧoħTYƧnīTYƧ
qE(YƧpĸTYƧ;4wWE( BASE UNITjFIRST<UBUNITnSEC:D<UBUNIToTHIRD<UBUNITnÝTH<UBUNITvDRY MEASU_ FIRST<UBUNIT
zaLIQUI[MEASU_ FIRST<UBUNITzdMEASU_<EC:D<UBUNIToTHIRD<UBUNITzdG_EK ACROPH:ŌAT]C :EņhH%FeDRACHMAlFđ
cFTYdVEÑhÍlFTYƧmVE T%@TSmT@ T%@TSlFIFTY T%@TSn:EűT%@TStFđűT%@TSu:E THOUS.[T%@TSuFđ THOUS.[T%@TS
qSTAT,SmT@<TAT,SlFIFTY<TAT,Sn:EÑ<TAT,StFđÑ<TAT,Su:EƧ<TAT,SuT@Ƨ<TAT,SuFIFTYƧ<TAT,SwT@ MNAS
oH,AEUM :E P+THR:uƉSPI. :EmH,MI:I. :EoEPIDAU_. ïoƉSPI. ïmCYR@AŌï DRACHMASvEPIDAU_. ï DRACHMAS
xTROEZ@I. FđeT@a ĻE)zeH,MI:I. T@oMESS@I. T@nƉSPI. T@cŰoROEZ@I. FIFTYa ĻE)zgH,MI:I. FIFTYqƉSPI. FIFTY
f:EÑlTĂÑwEPIDAU_. FđÑxTROEZ@I. FđÑwHESPI. FđÑvC&YS]. FđÑwNAXI. FđÑtƉSPI. :EƧmFđƧwDELPHŌFđ MNAS
rSTRA]. FIFTY MNASzf:E H%F~a ĻE)zdï THIRDS~oĂņS~tYE&~jT%@T~lDRACHMA~mOBOL~jï OBOLS~nĂ OBOLS~
qÝ OBOLS~ođ OBOLS~pMET_TES~nKYATHOS BASE~rLITRA~kƓKIA~lXESTES~l&TABE~jOURA~lďMMA~lTRYBLI: BASE~sZ,O~
j:Eņ~qS*USOID~n*DIC]:~uNOMISMA~;2mROM.<EXT.S~mUNCIA~kSEMUNCIA~lXTULA~mDIMIDIA<EXTULA~uSILIQUA~
mD@&IUS~nQU*&IUS~oSEST,]US~pDUP:DIUS~oAS~hC@TURI%~uASCIAÆ;4mG_EKÆ TAU RHO;48uP|ISTOS DISC~ PEDESTRI.
jLUME[ĦlTATTOOE[ĦnCAP]VEgHILDfWOM.fHELMETgGAUNT+Ti]&Af&ROWfBOWdSHIELDgCLUBeM.AC+SgTTOCKhSAWdLID
dBOOM,.GjC&P@TRY PL.EpDOLIUMgCOMBeSL*GfCOLUMNgBEEHđhSHIPeHORNdũeBULLS +GjCATdRAMdEAG+fDOVEeTUNNYfBEE
dPL.E T_EkV*EePAPYRUShROSETTEhLILYeOX BƴhFLUTEfďT,gSTRA*,háAXEjWAVY B.DjĳOBLIQUEƈ;131zsLYCI.żAbEbBaH
cGbDbIbWbZbTHcJbKbQbLbMbNbMMcNNcUbPbKKcRbSbTaTc.c@cHbX;4pC&I.żAbP2cDbLbUUUdRbLDcA2cQbBbMbObD2cTbSHa2
cbC-18eUbNNcXbNbTT2dPbSScIbEbUUUUeKa2cNDcUUcGa2cSTa2dNGcIIcC-39eTTcUUU2eRRcMBa2b3b4dLD2dE2cUUU3
;16rOP]C EPACTƧSÕoƊdïcĂfÝdđeħcīfE(fĸkėT@cƣfŰgƂTYeIFTYfħTYeīTYhE(YgĸTYg:EÑlïÑkĂÑnÝÑlđÑmħÑkīÑnE(ÑnĸÑ
;5zhOL[IT%ŌÂAbBEcKEcDEcEbVEcZEcHEcƉdIbKAcELbMbNbSHdObPEcǁdKUc,bScTEcUbEKSdPHEdKHEdEFbRSdŨdIIcUUcESS
kNUM,% :EdFđeT@dFIFTY;10nÂYEcNORTH,N TSEmSƱH,N TSEzfGOTHŌÂAHSAeBAIRK.hGIBAeDAGSeAIHVUSgQAIRTHRAiIUJA
e|GLeTHIUTHgEISdKUSMAfLAGUSfM.NAfNAUTHSgJ,dURUSePAIRTHRAiĸTYgRAIDAfSAUILfTEIWSfW*JAfFAIHUfIGGWS
fHWAIRfOTH%fĸÑ;6zbOL[P,MŌÂ.cBURdGAIdDOIdEbZHOIeDZHOIfZATAeDZITAfIbKOKEe+IdM@OEfN@OEfVOOIePEEIe_IdSII
dTAIdUbCH,YfSHOOIdCHOOIhYRYc,UeOaOcEFc|cTSIUeV,dY,aIdATdIEcYUbAcIAuĳOL[P,MŌÂ.cDOIdZATAeN@OEfSII
;6zgUG&I]Cż%PAeBETAeGAMLAfK|dDELTAfHOcWOcZETAeHOTAeTETdYODdKAFdSH*eƚDAfMEMdDH%eNUNdZUcSAMKAfA*dPU
cSADEeQOPAeRAS|fTH.NAgG|*fTOcIbUbSSU;2kWOR[DIVID,vOL[P,SI.~ AbIbUbKAbUcGAbUcXAcCAcJAbIcTAbUcDAbIbU
cT|dPAcBAcFAcNAbUcMAbIbUcYAcVAbIcRAbUcLAcSAcZAcS|cSAd|;5cAURAMAZDAAa-2c|mXS|AYATHIYAmDAHYAAUSHa-2
lBAGAdUUMƔmWOR[DIVID,mė:Edïc@cƣgHUND_D;43zbDES,ET $ŭIbEbAaHcOaOhŁ IbEbAaHcOaOiAYcOWcWUcYEEdHbPEEdBEE
dTEEdDEEdŨEeJEEdKAYdGAYdEFcVEEdƤdƉEeEScZEEdESHdZHEEe,bLbMbNaGdOIcEWr?ŭIbEbAaHcOaOhŁ IbEbAaHcOaOiAY
cOWcWUcYEEdHbPEEdBEEdTEEdDEEdŨEeJEEdKAYdGAYdEFcVEEdƤdƉEeEScZEEdESHdZHEEe,bLbMbNaGdOIcEWxS|VI.żPEEP
eTOTdKICKeFEEdTHIGHfSObU_eCHURCHgYEAdHUNGeBIBdDEADeGAGdVOWdƉYeZOOdMEASU_hJUDGEfWOEd|-|fLOLLeMIMEeIF
cEGGdĽcDOd:cWOOLeƱdAHcRO&eNUNdEATdAGEdICEdUPcOAKcOZEdILdAWEc_dORcAIRd,Rd&RAYfE&dI.dYEWsOSM.YAż%EFeBA
cTAcJAcXAcK|dDEELeRAcSAbHI*fD|dCAYNeGAcFAcQAAFeKAAFeLA.eMI*eNUUNeWAWd|cYAcAbEbIbObUbAAcEEcOO;3jÖe:E
dïcĂfÝdđeħcīfE(fĸ;7qAGE $AaIaNcHcBRAdC|dEHC|ea*d|bYAdIbKAcEHKAeKYAdLAcMAcNAcOa*dPAcEHPAeSAb|dTAcEHTA
eTSAdEHTSAfTS|eD|dUbWAcK|dG|dZAb|;5s?AaIaNcHcBRAdC|dEHC|ea*d|bYAdIbKAcEHKAeKYAdLAcMAcNAcOa*dPAcEHPA
eSAb|dTAcEHTAeTSAdEHTSAfTS|eD|dUbWAcK|dG|dZAb|;5wELBAS.żAbBEcCEbHEdDEcNDEdDHEdEIbbFEcGEbJEdHEcIbJE
cKEc+b+dMEcNEbAbJEdObPEcQEc_b_dSEbHEdTEbHEdUbVEcXEcYbZEbHEdGHEbƮgKHE;9sCAUCASI. %B.I.ż%TdBETdGIMdDAT
dEBcZ&LeEYNdZHILeTASdC|dYOWDeZ|dIRBdS|dL.d*YAeXEYNeDY.eC&dJHOXeK&dLYITeHEYTeQAYdAORdCHOYcIcYAYeMAQ
dQ&dNOWCeDZYAYfS|KeJAYNe:cTYAYeFAMdDZAYeC|TeP@dGHEYSfRATdSEYKeVEYZe]WReSHOYeIWNdCYAWdAYNeYAYDePIWR
eKIW;12kCITAĈzhVITHKUQI $AbBBEcEcCEbHEdDEbHEdEIbbFEcGA;2c|b|dIaJEdJEcKAcLAbLAdMEcNEbJEdObPEcQAc_
;2cSEbHEdTEbHEdUbVEcXE;2cYbZE;2r?AbBBEcEcCEbHEdDEbHEdEIbbFEcGA;2c|b|dIaJEdJEcKAcLAbLAdMEcNEbJEdObPE
cQAc_;2cSEbHEdTEbHEdUbVEcXE;2cYbZE;68yŜ& A~ AB001b2b3b4b5b6b7b8b9c10b1b3b6b7c20b1aFbMc2aFbMc3aMc4b6
b7b8e028BeB029c30b1b4b7b8b9c40b1b4b5b6b7b8b9c50b1b3b4b5b6b7b8b9c60b1b5b6b7b9c70b3b4b6b7b8b9c80b1b2b5
b6b7e100-102hB118c20e120BeB122b3c31AbBf131CeB164c71c80b8c91e301b2b3b4b5b6b7b8b9AbBbCd10b1b2b3AbBbCc4
b5b6b7b8b9c20b1b2b3b4b5b6b7b8b9c30b1b2b3b4b5b6b7b8b9c40b1b2b3b4b5b6b7b8b9c50b1b2b3b4b5b6b7b8b9c60b1
b2b3b4b5b6b7b8b9c70b1d400-VASf1-VASf2-VASf3-VASf4-VASf5-VASf6-VASf7-VASf8-VASf9-VASg10-VASf1-VAS
f2-VASf3-VASf4-VASf5-VASf6-VASf7-VASf8-VASh501b2b3b4b5b6b8b9c10b1b2b3b5b6c20b1b3b4b5b6b7b8b9c30b1b2
b4b5b6b7b8b9c40b1b2b5b7b8b9c50b1b2b3b4b5b6b7b9c63b4b5b6b8b9c70b1b2b3b4b5b6b7b8b9c80b1b2b3b4b5b6b7b8
b9c91b2b4b5b6b8d600b1b2b3b4b6b8b9c10b1b2b3b4b5b6b7b8b9c20b1b2b3b4b6b7b8b9c34b7b8c40b2b3b4b5b6b8b9c51
b2b3b4b5b6b7b8b9c60b1b2b3b4;10d701 Ad2 Bd3 Dd4 Ed5 Fd6 Hd7 Jd8 Kd9 Lc-2 L2e3 L3e4 L4e6 L6h10 Wd1 X
d2 Yd3 ſh4 ABBf5 BBe7 DDf26 EYYYh32 JE;11g800b1b2b3b4b5b6b7;25sŀ ĝAApUP,SńňƦqęňƦzháAEcÒBjB#à
;2lDZ DIŊa#ñoCURLtEZH DIŊl#ŐeàaÔŐuý[EkŠý[şEwF@G DIŊmRAMS HORNjÒGjG#àlÒG#àtHĞnÒHjH@G#àoß+SS JĞÔà
zfLS DIŊjZ DIŊj#BELTlÒL#BELTtL#ñÔBELTzeEZHa#ñyõYa#BELTsOĞnÒOEjLOSE[ſmQbõR#ŭ+GaÔñzqR#ŐeFƔàpÒR
jTC DIŊ#CURLtS DIŊa#ñzeESH DIŊl#ñvV#ăà;2rÒYpĹĞyý[ĹĞziBILABI% CLICKoD@T% CLICKmLAT,% CLICK
n%VEOL& CLICKo_TROF+X CLICK#ñzkSM%L<#CURL;70ziCYPRIOT<YLLAB+ AbEbIbObUbJA;3bO;2cKAbEbIbObUcLAbEbIbO
bUcMAbEbIbObUcNAbEbIbObUcPAbEbIbObUcRAbEbIbObUcSAbEbIbObUcTAbEbIbObUcWAbEbIbO;2cXAbE;4cZA;3bO
tIMP,I% &AMAŌÂ%EPHfBƤeGIMELfD%ƤgHEcWAWdZAY*fHƤeTƤeYODHeKAPHeƚEDHgMEMdNUNdSAMEKHgAY*ePEcSADHEfQOPH
e_SHeSH*eTAW;2kSEC]:~mė:EdïcĂe@cƣg:EÑhÍmT@ƧzlP%MYR@Eż%EPHfBƤeGIMELfD%ƤgHEcWAWdZAY*fHƤeTƤeYODHeKAPH
eƚEDHgMEMdF*% NUNjNUNdSAMEKHgAY*ePEcSADHEfQOPHe_SHeSH*eTAWiFT-ÈF+UR:vR(-ÈF+UR:wė:EdïcĂfÝdđeT@cƣ
xNABATAE.żF*% %EPHl%EPHfF*% BƤkBƤeGIMELfD%ƤgF*% HEiHEcWAWdZAY*fHƤeTƤeF*% YODHkYODHeF*% KAPHkKAPH
eF*% ƚEDHmƚEDHgF*% MEMjMEMdF*% NUNjNUNdSAMEKHgAY*ePEcSADHEfQOPHe_SHeF*%<H*kSH*eTAW;9kė:EdïcĂfÝ
lCRUCIƂM ėÝvėFđeT@cƣg:EÑ;49zd|TR.ż%EPHfBƤeGIMELfD%Ƥ-_SHlHEcWAWdZAYNeHƤeTƤeYODHeKAPHeƚEDHgMEMdNUN
dSAMEKHgAYNdPEcSADHEfQOPH;2eSH*eTAW;6kė:EdFđeT@cƣg:EÑzaPHO@ICI.ż%FdBETdGAMLeDELTeHEcWAUdZAIdHETdTET
dYODdKAFdƚDeMEMdNUNdSEMKeA*dPEcSADEeQOFdROSHeSH*eTAUkė:EdT@cƣg:EÑlïcĂ;4mWORD<ůzaLYDI.żAbBbGbDbEbVbI
bYbKbLbMbNbObRbSScTbUbFbQbSbTTc.c@cLYcNNcC;6iTRI.GUL&Õ;65wM,OI]C HI,OGLYPHŌÂAbEbIbObYAcWAcBAa-2ePA
cMAcNAa-2dEa-2eRAa-2eLAcK|dH|dSAa-2dEcKAcQAcTAa-2dEa-2dOcDAjSYMBOL VIDJa-2zbCURSđżAbEbIbObYAcWAcBA
cPAcMAcNAbEcRAcLAcK|dH|dSAc&C|IC<AkSEcKAcQAcTAbEbOcDA;5jFRAC]: E+V@ TWELFTHSp:E H%FrLOGOďM RMTdIMN
mė:EdïcĂfÝdđeħcīfE(fĸeT@cƣfŰgƂTYeIFTYfħTYeīTY;3h:EÑlïÑkĂÑnÝÑlđÑmħÑkīÑnE(ÑnĸÑm:EƧmïƧlĂƧoÝƧmđƧnħƧlīƧ
oE(ƧoĸƧnT@ƧlƣƧoŰƧpƂTYƧnIFTYƧoħTYƧnīTYƧqE(YƧpĸTYƧp:EűÍuïűÍtĂűÍwÝűÍuđűÍvħűÍtīűÍwE(űÍwĸűÍzdƗ TWELFTH
lï TWELFTHSlĂ TWELFTHSoÝ TWELFTHSmđ TWELFTHSnħ TWELFTHSlī TWELFTHSoE( TWELFTHSoĸ TWELFTHS
nT@ TWELFTHSznKH&OSHTHIżAiäIbUbü;2jEbO;6g+NGTHÕrðĭR*GÀrĜiľmÂKAb|dGAb|;2dCAb|dJA;2cNYAdTTAb|eDDAb|
eNNAdTAb|dDAb|dNAcPAb|dBAb|dMAcYAcRAcLAcVAcS|cSAcAcZAc|cKKAdTTT|cAeV|;3kðB&>jCAUDAfßÀ;5ošgƊdïcĂfÝ
kėT@cƣg:EÑhÍtƗ H%F;8rĀ ßdŝËmËf_SC@TģmM.G%AMiLOTUSfD.DAeƘmŜS;8zdOLD<ƱH &ABI.żHEcƚEDHgHƤeMEMdQOPHeWAW
dSH*e_SHeBƤeTAWdSATdKAPHeNUNdKHƤfSADHEdMEKHgFEc%EFdYNdD|DHEgGIMELfD%ƤgG|YNfTƤeZAYNeDH%ƤhYODHeT|WcƤ
mė:EdFIFTYj,Ō*DICATORzgNORTH &ABI.żHEHdƚd|Hd÷eQAFdWAWdES-2e_HdBEHdTEHdES-1eKAFdNO:eK|HeSADdES-3eFEH
d%EFd*dDADdGEEMeD%dG|*fTAHdZA*eTH%eYEHdƉHeZAHkė:EdT@cƣ;33zgM.IC|E.ż%EPHfBƤdHƤfGIMELeHIMELgD%ƤgHEcWAW
kðUDhÂZAY*e|Y*gJAY*e|Y*gHƤeTƤeYODHeKAPHeXAPHeK|PHfƚEDHgD|MEDHhT|MEDHhMEMdNUNdSAMEKHgAY*dAY*fPEcFE
cSADHEfQOPHeXOPHeQHOPHf_SHeSH*dSH*fTAWkABB_VIAĈ>fŤ;5xė:EdFđeT@cƣg:EÑsĀ<T&eF+UR:hĭß WITH* ßtT WITH* ß
ldƛiŜ FIL+R;10zjAVEST.żAaAbObAOcNb.cEaEdEaEcOaOcIaIcUaUcKEcXEbYEcVEdGEbGEcHEdCEcJEcTEbHEdDEbHEdTTE
dPEcFEcBEbHEdNGEbYEcVEdEbYEcNEdMEcHMEdYYEcEcVEc_c+cSEcZEcǁdZHEdSHYEdǁeHE;4jABB_VIAĈzaT*Y ƛČ :E ß Ā
znŝƛČ :E ß Āzoŋ ƛČ :E ß Āzi:E ßČ ƛ Āziï R*GSČ :E RêĀzk:E RêOV, ï R*GS Āzq*SCRIP]:% P&THI.ż%EPHfBƤ
eGIMELfD%ƤgHEcWAWdZAY*fHƤeTƤeYODHeKAPHeƚEDHgMEMdNUNdSAMEKHgAY*ePEcSADHEfQOPHe_SHeSH*eTAW;3kė:EdïcĂfÝ
eT@cƣg:EÑhÍzbHLAVIż%EPHfBƤeGIMELfD%ƤgHEcWAW-AY*-_SHnZAY*fHƤeTƤeYODHeKAPHeƚEDHgMEM-QOPHiNUNdSAMEKHgPE
cSADHEeH*eTAW;6kė:EdïcĂfÝeT@cƣg:EÑhÍzqPS%T, PAHLAVIż%EPHfBƤeGIMELfD%ƤgHEcWAW-AY*-_SHnZAY*fHƤeYODH
eKAPHeƚEDHgMEM-QOPHiNUNdSAMEKHgPEcSADHEeH*eTAW;8kSECĈmTURNED<ECĈtÝē#òfß;13sė:EdïcĂfÝeT@cƣg:EÑ
;81zjOL[TURKŌÂŷAiŏAaEkŷIiŏIbEjŷOaEjŏOEkŷABjŏABkŷAEBkŏAEBlŷAGjŏAGkŷAEGkŏAEGlŷADjŏADkŷAEDdEZjŏEZkŷAY
jŏAYkŷAEYkŏAEYlŷAEKkŏAEKlŷOEKkŏOEKlŷ%jŏ%kŷAELdELTcMc.b@kŏA@lŷ@Tkŏ@Tlŷ@Ckŏ@Clŷ@Ykŏ@Yd.Glŷ@GkŏA@GmŷEP
cOPcICcECjŏECkŷAQjŏAQkŷIQjŏIQkŷOQjŏOQkŷ&jŏ&kŷA,cSbEScSHkŏĽlŷESHkŏESHlŷATjŏATkŷAETkŏAETlŷOTcBĽ
;56zaHUNG&I. $AaAcEBcAMBdECbNCcCScDc.DdEbCLOSE EhEEbFbGaYcHcIaIcEJbKcAKcUNKdELaYcMbNaYdOaO
cNIKOLSBURG OEnRUDIM@TA OEmOEEdEPbMPcRcŁ ,iESaZcTbNTcTYcCHdUaUcNIKOLSBURG UEnRUDIM@TA UEmEVbZaS
cNT-S|PED~pUS;14r?AaAcEBcAMBdECbNCcCScDc.DdEbCLOSE EhEEbFbGaYcHcIaIcEJbKcAKcUNKdELaYcMbNaYdOaO
cNIKOLSBURG OEnRUDIM@TA OEmOEEdEPbMPcRcŁ ,iESaZcTbNTcTYcCHdUaUcNIKOLSBURG UEnRUDIM@TA UEmEVbZaS
cNT-S|PED~pUS;8pė:EdFđeT@dFIFTYf:EÑhÍziH.IFI ROH*GYAżAbBAcPAcTAbTAdJAcCAc|cK|dFAcDAbDAdRAbRAdZAcSAb|
dKAcGAcLAcMAcNAcWAcK*NA WAiYAcK*NA YAiƻcYAdVAjVOWEL AbIbUbEbOhM&K<AK*fNA KH:NAoðH&BA|YiTAH%AeNAcSSI
;9kÖe:EdïcĂfÝdđeħcīfE(fĸ;295zbRUMI ƊdïcĂfÝdđeħcīfE(fĸkėT@cƣfŰgƂTYeIFTYfħTYeīTYhE(YgĸTYg:EÑlïÑkĂÑnÝÑ
lđÑmħÑkīÑnE(ÑnĸÑtƗ H%FeQU&T,hTHIRDjï THIRDS;2yYEZIDIżELIFeBEcPEbHEdƉdSEcCIMcHIMcHIMfH|dXAcD%dZ%dRAb|
dZAcJAcS*cH*dADdDADdTAcZEcEYNdXHEYNfFAcVAa ĻE)rQAFdKAFc|FeGAFdƚdMIMdNUNdUMcWAWdOWcEWc|YdYOTdET
;2jĳ|MZAÕkMADDAÕuHYPH@AĈ;3qÂƚřsYOT#Ð>;79zoOLD<OGDI.ż%EPHfF*% %EPHlBƤeF*% BƤkGIMELfHEcF*% HEiWAWdZAY*
fHƤeYODHeKAPHeƚEDHgMEMdNUNdF*% NUNa#Ø ŐzdSAMEKHgAY*dLT,NATE AY*oPEcSADHEfF*%<ADHEa#Ø Őzf_SH-AY*-D%Ƥ
qSH*eTAWdF*% TAWa#Ø Őzkė:EdïcĂfÝdđeT@cƣfŰg:EÑsƗ H%FrLĿAY*-D%Ƥ;9zhSOGDI.ż%EPHfBƤeGIMELfHEcWAWdZAY*fHƤ
eYODHeKAPHeƚEDHgMEMdNUNdSAMEKHgAY*ePEcSADHEf_SH-AY*jSH*eTAWdFƤe+SHl*DEP@D@T<H*qĳßÀjƛÀoß>jƛ>oƽ>fŤlà>
fŤkŭàÀp_SHÀkSÉÀwė:EdT@cƣg:EÑsĀ ï ØģSa#ßSzcË#ßpï ËS#ßSvęË#ß;23zpOL[UYGHURż%EPHfBƤeGIMEL-HƤkWAWdZAY*
fF*% HƤkYODHeKAPHeƚEDHgMEMdNUNdSAMEKHgPEcSADHEf_SHeSH*eTAWd+SHlĳß>fŤjƛ>fŤyĀģdïģSeßSiÝē
;39zhCHORASMI.ż%EPHfŝ%EPHlBƤeGIMELfD%ƤgHEcWAWdCUR+[WAWkZAY*fHƤeYODHeKAPHeƚEDHgMEMdNUNdSAMEKHgAY*ePE
c_SHeSH*eTAWkė:EdïcĂfÝeT@cƣg:EÑ;21zeELYMAŌÂ%EPHfBƤeGIMELfD%ƤgHEcWAWdZAY*fHƤeTƤeYODHeKAPHeƚEDHgMEM
dNUNdSAMEKHgAY*ePEcSADHEfQOPHe_SHeSH*eTAWjĿZAY*-YODH;10zcBRAHMI~ ğlĜiľhJIHVAMULIYAlUPADHM.IYAqÂAaAcI
aIcUaUcüaRcLaLkEbAIcObAUcKAb|dGAb|dƻdCAb|dJAb|dNYAdTTAb|eDDAb|eNNAdTAb|dDAb|dNAcPAb|dBAb|dMAcYAcRA
cLAcVAcS|cSAcAc|cLLAdOL[TAMIL LLLAeRRAdNNNAväAAcB|T]PROLU AAoIaIcUaUcüaRcLaLkEbAIcObAUmIRAMAgD.DAeƘ
mĀ ßbUB+ ßkŜeC_SC@TģmLOTUS;5rė:EdïcĂfÝdđeħcīfE(fĸeT@cƣfŰgƂTYeIFTYfħTYeīTYhE(YgĸTYg:EÑhÍtÖe:EdïcĂfÝdđ
eħcīfE(fĸkðOL[TAMIL švÂOL[TAMIL<HORT EbOyäOL[TAMIL<HORT EbOzdÂOL[TAMIL LLA;10uėJO*,uKAITHI~ ğlĜiľmÂA
aAcIaIcUaUcEbAIcObAUcKAb|dGAb|dƻdCAb|dJAb|dNYAdTTAb|eDDAbD|d|eR|dNNAdTAb|dDAb|dNAcPAb|dBAb|dMAcYAcRA
cLAcVAcS|cSAcAc|jäAAcIaIcUaUcEbAIcObAUnðšgNUKTAkƨr@UM,ŧ~qNUMB,~lSECĈmÁ<ECĈs.DAeƘmäü;11uNUMB,~>
;3ySORA<OMP@G +TT,<AHdTAHdBAHdCAHdDAHdGAHdMAHdƻHeLAHdNAHdVAHdPAHdYAHdRAHd|HdKAHdJAHdNYAHeAHcEEHdIH
cUHcOHcEHcMAE;8kÖe:EdïcĂfÝdđeħcīfE(fĸ;7xC|KMA~ ğlĜiľmÂAAcIbUbEbKAAc|AeGAAc|AeƻAeCAAc|AeJAAc|AeNYAA
eTTAAc|AfDDAAc|AfNNAAeTAAc|AeDAAc|AeNAAdPAAc|AeBAAc|AeMAAdYYAAdAAdRAAdLAAdWAAdSAAd|AkäAbIaIcUaUcEbAI
cObAUcOInOÕgAUÕhšgMAAYYAA;2hÖe:EdïcĂfÝdđeħcīfE(fĸkSECĈmD.DAeƘmƇnÂL|AläAAcEInÂVAA;9rMA|J.IżAbIbUbEbO
bKAb|dGAb|dCAb|dJAb|dNYAdTTAb|eDDAb|eNNAdTAb|dDAb|dNAcPAb|dBAb|dMAcRAcLAcVAcSAc|cRRAkðNUKTAkƨrSECĈ
mLIGATU_<HRI;10wSH&ADA~ ğlĜiľmÂAaAcIaIcUaUcüaRcLaLkEbAIcObAUcKAb|dGAb|dƻdCAb|dJAb|dNYAdTTAb|eDDAb|
eNNAdTAb|dDAb|dNAcPAb|dBAb|dMAcYAcRAcLAbLAdVAcS|cSAcAc|jäAAcIaIcUaUcüaRcLaLkEbAIcObAUnðšgAVAď|
iJIHVAMULIYAlUPADHM.IYAqOMcD.DAeƘmƨrSůi.DHIÕkIGN NUKTAkVOWEL ŀÕtEXTRA<HORT VOWELÕwSUTRAÕ
käPRƔT|MATRA EzbðĒğzaÖe:EdïcĂfÝdđeħcīfE(fĸkEKAMeSIGN<IDD|MmĦSÉkC:T*Uŧ~rSECĈ-1b2;2v*H%A &C|ŌƊdïcĂfÝdđ
eħcīfE(fĸkėT@cƣfŰgƂTYeIFTYfħTYeīTYhE(YgĸTYg:EÑhÍ;12zkKHOJKIżAaAcIbUbEbAIcObAUcKAb|dGAbGAc|dƻdCAb|dJA
bJA;2dNYAdTTAb|eDDAb|eNNAdTAb|dDAbDDAd|dNAcPAb|dBAbBAc|dMAcYAcRAcLAcVAcSAc|cLLAkäAAcIaIcUbEbAIcObAU
nðĜišgNUKTAfS|DDAlD.DAeƘmWORD<ůoSECĈmÁ<ECĈtƨrSIGN<UKUN;66rMULT.IżAbIbUbEbKAb|dGA;2b|;2dCAb|dJAbJA
;2dNYAdTTAb|eDDAbDAc|eNNAdTAb|dDAb|dNAcPAb|dBA;2b|dMAcYAcRAcLAcVAcSAc|cRRAc|kSECĈ;7uKHUDAWADIżAaAcI
aIcUaUcEbAIcObAUcKAb|dGAbGAc|dƻdCAb|dJAbJAc|dNYAdTTAb|eDDAbDAeRRAdDD|eNNAdTAb|dDAb|dNAcPAb|dBAbBAc|
dMAcYAcRAcLAcVAcS|cAc|jðĜnäAAcIaIcUaUcEbAIcObAUnðNUKTAfš;6lÖe:EdïcĂfÝdđeħcīfE(fĸ;7uGR.T|~ ĳĜ>
x.DRAB*DUlĜiľ;2mÂAaAcIaIcUaUcübL;3jEEcAI;3cOOcAUcKAb|dGAb|dƻdCAb|dJAb|dNYAdTTAb|eDDAb|eNNAdTAb|dDAb|
dNA;2cPAb|dBAb|dMAcYAcRA;2cLAbLA;2dVAcS|cSAcAc|;2rĳB*DUÀvGR.T|~ NUKTAfAVAď|näAAcIaIcUaUcüaR;3kEEcAI
;3cOOcAUnðš;3lOM;7cAU +NGTHÕ;6oðPLUTAkÂVEDŌĜiĭĜuOC%ŌRRcLLräVOC%ŌLaL;3zeĳGR.T| Öe:EdïcĂfÝdđeħ;4jÂAbKA
cNAcVIcPA;140zcNEWAżAaAcIaIcUaUcüaRcLaLkEbAIcObAUcKAb|dGAb|dƻb|eCAb|dJAb|dNYAb|eTTAb|eDDAb|eNNAdTAb|
dDAb|dNAb|dPAb|dBAb|dMAb|dYAcRAb|dLAb|dWAcS|cSAcAc|jäAAcIaIcUaUcüaRcLaLkEbAIcObAUnðšgğlĜiľhNUKTA
fAVAď|iF*% ĜtOMcSIDDHIgD.DAeƘmĨfGAP FIL+RkƨrÖe:EdïcĂfÝdđeħcīfE(fĸjOUB+ ĨmPLACEHOLD,Õ;2q*S,]:~oS.DHIÕ
lÂVEDŌĜvðJIHVAMULIYAlUPADHM.IYA;31v]RHUTA .JIeÂAaAcIaIcUaUcüaRcLaLkEbAIcObAUcKAb|dGAb|dƻdCAb|dJAb|
dNYAdTTAb|eDDAb|eNNAdTAb|dDAb|dNAcPAb|dBAb|dMAcYAcRAcLAcVAcS|cSAcAc|jäAAcIaIcUaUcüaRcLaLkEbŁ EhAIcO
bŁ OhAUnðğlĜiľfRAMAgNUKTAfAVAď|nGV.GfƨrOM;9cÖe:EdïcĂfÝdđeħcīfE(fĸ;167sSIDD|MżAaAcIaIcUaUcüaRcLaLkE
bAIcObAUcKAb|dGAb|dƻdCAb|dJAb|dNYAdTTAb|eDDAb|eNNAdTAb|dDAb|dNAcPAb|dBAb|dMAcYAcRAcLAcVAcS|cSAcAc|
jäAAcIaIcUaUcüaR;3kEbAIcObAUnðğlĜiľfRAMAgNUKTAfSIDD|MmD.DAeƘmSů ßdB&n_PE]Ĉ-1b2b3r@[OF TEXTÕ
qSECĈ#TRID@TÔU-S|PE[ąSsßƕC_SC@TSzdRAYSÔßƕC_SC@TSjĭC_SC@TSqő C_SC@TSzmĭR*Ga#RAYSvWITH ĭC_SC@TS
qő C_SC@TSqƼUP+ C_SC@TStSEPTUP+ C_SC@TSsËSÔRAYSeï @CLOSU_SoÝ @CLOSU_SzuÂTĂ-Ë ĻE IxWO-Ë ĻE IaIxĻE U
säĻE UaU;35zgMODIżAaAcIaIcUaUcüaRcLaLkEbAIcObAUcKAb|dGAb|dƻdCAb|dJAb|dNYAdTTAb|eDDAb|eNNAdTAb|dDAb|
dNAcPAb|dBAb|dMAcYAcRAcLAcVAcS|cSAcAc|cLLAkäAAcIaIcUaUcüaRcLaLkEbAIcObAUnðĜiľfRAMAg&D|C.DRAqD.DAeƘmƨ
rðHUVA;12jÖe:EdïcĂfÝdđeħcīfE(fĸ;7nNGOLI. BIRGA#ątROTAƕBIRGAnĭBIRGA#ązbő BIRGA#ązbBIRGA#ĭą
zbROTAƕBIRGA#ąiĭązjĒBIRGAa#ĭązkSWIRL BIRGAa#ąiĭązhTURNED<WIRL BIRGA#ĭą;20zyTAKRIżAaAcIaIcUaUcEbAIcO
bAUcKAb|dGAb|dƻdCAb|dJAb|dNYAdTTAb|eDDAb|eNNAdTAb|dDAb|dNAcPAb|dBAb|dMAcYAcRAcLAcVAcS|cAc|cRRAkðĜiľ
mäAAcIaIcUaUcEbAIcObAUnðšgNUKTAkÂ&C|ŌK|sƨ;7rÖe:EdïcĂfÝdđeħcīfE(fĸ;55qAHOMżKAb|dƻcAcTAcĻE TAmPAb|dBA
cMAcJAcC|dT|dRAcLAcSAcNYAd|cAbDAb|dGAcĻE GAmG|dB|dJ|dĻE BA;3tƝì% LAcRAcLIGATêRAziäAaAcIaIcUaUcEbAWcO
bAIbMnðKIL+R;5lÖe:EdïcĂfÝdđeħcīfE(fĸkėT@cƣnSIGNƀ<EC]:mEC]:hRULAIjYMBOL VIjÂCAcTTAb|eDDAb|eNNAdLLA
;186pDOďżAaAcIaIcUaUcEbAIcObAUcKAb|dGAb|dƻdCAb|dJAb|dNYAdTTAb|eDDAb|eNNAdTAb|dDAb|dNAcPAb|dBAb|dMA
cYAcRAcLAcVAcS|cSAcAc|cRRAkäAAcIaIcUaUcüaRkEbAIcObAUnðĜiľfRAMAgNUKTAkƨ;101xW&.G CI] $ƻAeAbWIcYUbAbO
cIIcUUcEbOb.GdGAcKOc@YdYUJdUCc@NdODDdTTEdNUNGeDAcATbMcBUcPUcHIYOdOLOcRRd&dSSUUdIIdVIYOt?ƻAeAbWIcYUbA
bOcIIcUUcEbOb.GdGAcKOc@YdYUJdUCc@NdODDdTTEdNUNGeDAcATbMcBUcPUcHIYOdOLOcRRd&dSSUUdIIdVIYOrÖe:EdïcĂfÝ
dđeħcīfE(fĸkėT@cƣfŰgƂTYeIFTYfħTYeīTYhE(YgĸTY;13nOMoDđS AKURUżAaAcIaIcUaUcE;3bO;3bKAb|dGAb|dƻdCAb|dJA
;2cNYAdTTA;2dDDAb|eNNAdTAb|dDAb|dNAcPAb|dBAb|dMAcYAbYAdRAcLAcVAcS|cSAcAc|cLLAdZAjäAAcIaIcUaUcE;2bAI
cO;3mðĜiğlH%.TAmšgP_FIXE[NAS%~tì% YAj*I]% RAkì% RAjðNUKTAkĭD.DAmGAP FIL+Rk@[OF TEXTÕ;10qÖe:EdïcĂfÝdđ
eħcīfE(fĸ;71wN.D*AG&IżAaAcIaIcUaUcüaR;3kEbAIcObAUcKAb|dGAb|dƻdCAb|dJAb|dNYAdTTAb|eDDAb|eNNAdTAb|dDA
b|dNAcPAb|dBAb|dMAcYAcRAcLAcVAcS|cSAcAc|cLLAdRRAkäAAcIaIcUaUcüaR;3kEbAIcObAUnðĜiľfRAMAgAVAď|iSIDD|M
mĦSÉkäPRƔT|MATRA E;28znZ.ABAZ&íżAiäIbUEbbEbOEbbAIbUcý[Ip+NGTHÕrÂKAb|dGAb|dƻdCAb|dJAcNYAdTTAb|eDDAb|
eNNAdTAb|dDAb|dNAcPAb|dBAb|dMAcTSAb|eDZAb|eZ|cAc-AcYAcRAcLAcVAcS|cSAcAc|cKSSAlF*% C:S:.TÕuðšgğa#ąt#ą
uĜiľmCLUST,-*I]A!RArF*A!YAcRAcLAcVAx*I]% HEA[M&KrCLOSêHEA[M&KrM&K TǁGfS|DeÁ<|DlŭTǁGp*I]% Á-Ŝ[HEA[M&K
zfCLOSêÁ-Ŝ[HEA[M&KzfSUBJO*,;9zbSOYOMBOżAiäIbUEbbEbOaEcAIbUcübLo+NGTHÕrÂKAb|dGAb|dƻdCAb|dJAb|dNYAdTTA
b|eDDAb|eNNAdTAb|dDAb|dNAcPAb|dBAb|dMAcTSAb|eDZAdZ|cAc-AcYAcRAcLAcVAcS|cSAcAc|cKSSAlðJIHVAMULIYA
lUPADHM.IYAqCLUST,-*I]A!RAcLAcS|cAzaF*% ƝGbKbNGcDbNbBbMbRbLbSHbb-AxðĜiľmGEM*AĈpSUBJO*,jM&K TǁGfS|D
eÁ<|DlPLUTAkHEA[M&K#MO: .D<UNÔő FƚEmFƚEkzcT,M*%Õ-1b2;14xC.ADI.<YLLABICS NAT]LIK HIaIcOaOcAaAdSHRIaI
cOaOcAaAoSPEbIbObAwPAU C* |UżPAcKAcLAcMAcDAcZAcVAcƻd|cGAcK|dSAcBAcCAcTAb|dNAcP|dRAcFAcC|dAbEbIbObUaA
cIAcF*% PbKbTbMbNbLbWbNGcYoRISêƥ L:GflS.DHI ĹtRISêƥ ŭF*%kF*%rS.DHI Ĺ F*%sƥ L:Gfa ŭF*%kF*%rMID-+VEL ƥ
oĹ V&I.TuMID-+VEL ƥ ŭF*%kF*%uLOW-F%Lêƥ L:GfqĹmLOW-F%Lêƥ ŭF*%kF*%wĹ F*%;264zfB|IKSUKIżAaAcIaIcUaUcüaR
cL;2jEbAIcObAUcKAb|dGAb|dƻdCAb|dJAb|dNYAdTTAb|eDDAb|eNNAdTAb|dDAb|dNAcPAb|dBAb|dMAcYAcRAcLAcVAcS|cSA
cAc|jäAAcIaIcUaUcüaRcL;2jEbAIcObAUnðğlĜiľfRAMAgAVAď|nD.DAeƘmWORD<ůoGAP FIL+R-1b2;11mÖe:EdïcĂfÝdđeħcī
fE(fĸkė:EdïcĂfÝdđeħcīfE(fĸeT@cƣfŰgƂTYeIFTYfħTYeīTYhE(YgĸTYnHUND_DS UNITÕ;4zdM&CH@ HEA[M&KjM&K<|DjÂKA
b|dGAcƻdCAb|dJAcNYAdTAb|dDAcNAcPAb|dBAcMAcTSAb|eDZAdWAcZ|cAc-AcYAcRAcLAcS|cAc|cA;3iSUBJO*E[ÂKAb|dGA
cƻdCAb|dJAcNYAdTAb|dDAcNAcPAb|dBAcMAcTSAb|eDZAdWAcZ|cA;2cYAcRAcLAcS|cAc|cAsäAAcIbUbEbOmðĜiğ
;74wS&AM G:DIżAaAcIaIcUaUcE;2bAIcO;2bAUcKAb|dGAb|dƻdCAb|dJAb|dNYAdTTAb|eDDAb|eNNAdTAb|dDAb|dNAcPAb|
dBAb|dMAcYAcRAcLAcVAcS|cSAcAc|cLLAdKSSAeJNYAeTRAkäAAcIaIcUaUcü;4jE;2bAIcO;2bAUnðĜiľhNUKTAfC.DRA
gH%.TAmšg_P|eA-K&A;9hÖe:EdïcĂfÝdđeħcīfE(fĸ;7yGUNJ%A G:DIżAaAcIaIcUaU;2cEEcAI;2cOOcAUcYAcVAcBAb|dMA
cKAb|dTAb|dLAcGAb|dDAb|dNAcCAb|dTTAb|eLLAdJAb|dDDAb|eƻdPAb|d|cRAcSAjäAAcIaIcUaU;2cEEcAI;2cOOcAUnðĜiľ
mšgOM;8cÖe:EdïcĂfÝdđeħcīfE(fĸ;311yMAKAS&żKAcGAcƻdPAcBAcMAcTAcDAcNAcCAcJAcNYAdYAcRAcLAcVAcSAcAi.GKA
fäIbUbEbOmPASSIMB.Gk@[OF<EC]:;184wLISUżY|;16pTAMIL Ɨ TĂ-HUND_D-.D-TW@]Ƥzc:E-HUND_D-.D-ħ]ƤyE(IƤ
jħTY-ÝTHmƂ]ƤiTŰ-SEC:DrTĂ E(IƤSkħTY-ÝTHSt:E TW@]ƤjħTE@TH-1b2lT@THfE(HkTĂ TW@]ƤSkħTE@THSq:E FIFTH
fQU&T,hH%F-1b2kTĂņSoÙSC%êFACTOR KIIZHziðNELdCEVITUgAAZ|AKKUjUZ|KKUhMUUVUZ|KKUlKURUNIgPAT|KKU
iMUKKURUNIjKAACUfP.AMe:dV&AAK.iPA&AMgKUZHIfVELIjWET CUL]Vŧ~uDRY CUL]Vŧ~uL.D~jS%T P.~nTRADI]:% C_DIT~
lNUMB,~xCURR@T~m.[ODD~mSP@T~kTOT%~k* POSSESSI:~sST&TêFROM~rIGN MUTH%IYAjVAKAIY&AA;14pĀ @[OF TEXT
zeCUNEIƂM~ AaÚAbBADdG.2 T@Uj|cIGIdLAG&ŦkMUSHeSAGk2bBaÚĽ2eDUN3ŦjG%bN2 T@Uj|cIGIŦhM*eLAGABfǁSHfUëUëU
vGUNUf2aÚB%AGfG.2 T@UjMEë@kS|3eTAK4nDbKaÚ,*2fSHITAëGƔxLaÚ%cDIM2eGƔe|cKAD3dIcǁdUSHk.cEPHeM&a ]MES<HE
nNaČ .hTĂ ]MESlƖ NAGA OPPOSê.ëNAGAvŬDsǁeP*dRADaÚKURmKABeS%2dHa ZIDA T@UjKABA T@U
jOV, Ľ TUG2Č TUG2 TUG2Č TUG2 PAPziOV, Ľa òêĽČ ĽČ Ľzy2bGABgBAaDbG3cH&2eLaČ B%jAGdRaA2eIaÚAbG&dIGIŦqU
aČ BU ABcUNkòêBUmLUGaČ BULUGoRa2eDAaGa KISIM5ÚAëMĽkM&eB%AGeIcGAaëMĽlIaR2dUDd|cIRaëLUkKAKdLAbUaëMĽ2lM
dNEcPAPëPAPmSIcTAK4eU2ëGIR2lSHsMbRaA3b4eIaBbMa ]MES<HEk2cNa KASK% UŦ DƔuSHdUaČ DUhGUNUeǁSHIGiBaÚESH2
l2cGaUDdHbNa3aŦaŦl4cR2eEaÚPAPjOV, E NUNČ NUNu2aÚAë|ëDArG&dMIcS%cHEdUjD*dGIRdLbNaÚG.2a T@UjMEiòê@
lOPPOSê@lŬDjR@c*2eSH2dZ@aÚAaëL%aÚL%tNcBADdDUN3ŦaŦo|aŦhIGIŦiKASK%aíDnU3dLAaLÚL%mIbUcU2bDnGAaŦf2
aÚAëDAë|k|cIGIjB2 T@UëTABqNbSHa2ëG%nBADbRëRAkURaëRAlDAbIaM ]MES<HEmUBdELaëLAjNaÚG.2 T@UsG.2 T@UhRcI
a4aëAiR2 Ɩ<Um|ëLUëESH2sLaëLAkIëLIjUB2eIGIŦhSHëHUëĽuKAKbSK%fIDaëL%lU3ë.lLAcMEë@jIcNUNaČ NUNmPAcS%bR
cHEaëTURkIDdUMdTAK4eUaDaëDUqOV, GA2kBAa òêGABAqDaČ GA[G&Č G&xLa GA[OV, GA[G&Č G&zbAMdMbNa2a T@U
eOV, G.2jòêG.2qRa3cSH.fESHT*aÚKURqIaÚEbUhòêGIm4aČ GI4iòêGI4oDIMdR2aŦg3aÚAëIGIkG.2 T@UjIGIdLUëIGIlPA
lS%cHa òêGƔn]MES BADdTAK4j@UiUa òêGUm2aÚKAKaÚIGIŦsNUNdS%ëTUG2tGUNUgDaÚAëKURkKURjOV, GU[LUG%qLbM
a ]MES<HElRa7bUNbSHg|a T@UeGUNUfLcIaÚĽa2eBADdDƔeGADdK*dNUNdǁdUjUaB2aÚ.cH%dKASK%gLƔeUDlL2eIa AcBbDIM
aČ IDIM BURdŬDvGaIa DIBdRIcOV, IGI<HIRČ<HIR U[OV, UDzjGUNUhLaÚG.2 T@Uq2cMaÚTAK4kòêIMlOPPOSêIMlŬDi*dN
bRbSHdKAaÚAaDaëKU3kSH2eBADbLAGdRcIc,*2eSH2eGAaLbN2 T@UhRa Ɩ<|3ëAtIaR2cSH Ɩ<&iòêGƔrUaR7eIGIcMcKAKcIaD
dLIbUcMEaëDUcGIcTEjIaëNUNUZnNEbUNdPIcRUcSAaRc|bEbIDcUcIGcUHURfT&dUa2bDbMUMÚPAmSHdZIj2a òêKA2oBbD2b3
b4b5aČ KAD5mKaÚIGIŦqLaÚBADjòêK%oM2b4cSK%a LAGABÚUČ LAGABÚUzhOV, KASK% LAGABÚUČ LAGABÚUzzaESH2eIaÚBAD
dUaDjDbNbS%cHbIM5aČ KISIM5rUaČ HIÚĽ2 KUČ HIÚĽ2zq3b4aƢo7bLaŦgNbRa OPPOSêKURoSHU2fWU318gLAaGABaÚA
aëDAë|kG&dL%jLbNbSH ZIDA T@UnBADcIcD&d@cGAaRcUDaëGUDm|aLcIÚNUNmIGIŦhMaë|cLUkKIaNcU3bLaëHIëAsLAGABeƔ
dUaLdMEaë@jUSHeNEcǁ Ɩ<UMkITAëGƔë,*2kT@UsU2a Ɩ<HU2nUMdTAGbK4dEëA Ɩ<UëNAzaUaëAbUëUo2ëĽkDbSHjŬDjR
a ]MES<HEa Ɩ<UMsGUNUaČ LAG&Ŧ<HEzdHSHUeLaÚL%lMaÚKURaëRUuIaLbMMU2eSHdUaÚBADk2aÚ%cBADdESH2a T@UjG.2 T@U
jHIÚBADmIMcKAD2b3aëĽmIcLAëĽjGABfMEë@kNEbUcSIëĽjK2ëBUmTUG2j@UeòêLU2mOPPOSêLU2mŬDgHESHIGj3bG%aČ LUG%
jPPOSêLUG%oǁSHIGlHbLbMaČ LUMa G&Č G&zaMAaÚTAK4kGUNUf2bHbRbSHa2eEaScIaNcUaČ MUiGaŦgNSUBeRGU2eSHaÚA
bKURdZAiOV, MUSHaÚAëNAzaòêMUSHo3aÚAaëDIjDIiGUNUkNAa2bGAa *V,TEDi]MES<HU T@UoOPPOSêNAGAoRdM NU]LLUia2
dEaÚAbUDiǁSHIGjIaÚEi2bMaÚG.2 T@UhRëG.2 T@UzbNDA2aÚ.bSHaëĽmGUDdMEëG.2 T@UrNEbUNdǁaëA .dSHaëĽvU2ëĽkSH
oSAGeUa11cNa LAG&ÚG&dMĽeS%aČ NUN LAG& ]MES<%zdUSHpT@UeOV, NUNiòêNUNa LAG&Č LAG&zfUZa AB2ÚĽGABgBIcDUG
dGUDdIGIŦiKAD3eLAcNEcSILA3fU2mKISIM5ÚBIa UxPAaDbNbPcESH2eIaÚAaBcBIbUcEbIaBcUa2iòêPImRIGaÚK%dUDcZA
iOPPOSêPIRIGuRAaBcIbUcSAaG NU]LLUiaÚAbDUaBd|cKAKcURdLUMdMIcNUNdS%cHIDeTABdU2bBbMbRbSHjOV,<AGiGUNUgL
a LAGABÚĽ2sƻ2eRc|a3aÚAbBADdGƔeNEcSHU2eTURdUaëAq6bB6cR2dEa HUcOV,<HE GA[OV, GA[G&Č G&
zaTABČ TAB G&Č G&zkG9cNbSHa2bƚgIDaÚAbIMkMaÚAbB%cULUGfD*dG&dIGIaŦiKUSHU2gLULdMUGdS%lNIGdRa T@U
eOV,<HIR BURČ BURyTAdUaČ *V,TED<HUs2bBURfIaŦfGa4aČ<IG4<HU2rK2cLA3eUaČ<UiDa2cHURdMaĽeRa9eTAa ƍ
i]MES HIcMIiGUNUfBaČ TAB NIČ NI DƔČ DƔzjŬDjGaÚBIcGUDdǁbUdTUG2eUDkK4cRcEaŦgIa T@UfLbRaÚTAK4kOV, ]R
a GA[OV, GA[G&Č G&zmUaG2cKbMbRaČ TUR ZAČ ZAxUa GUDdU UdOV, U PAČ PA G&Č G&xSURČ<URmU ý[OV, U ýDzj2bB
bDa KUSHU2g]MES BADdMIcUëUëUaŦzbGUNUeǁSHIGaÚBADsUGdMaÚLAGABfMEëDAkS|3eUiB*dUMaÚKASK%gPAmNaŦgRa òêUR
lǁSHIGi2aÚAë|cNAiLc|cNUNdU2aëĽdBIs4bIa3cUaÚAaSHGABgB&dDUNdGAaLbN2 T@UhRcUc|cIGIcMbSHdKIcLUMdM*dPAcǁ
cIG4eTUcUëGUDjDbRUDAmDAaÚUmSHaÚAbKUaRdTAK4lXb2bUMXfTUKIeZ3aÚKASK%oUdZAa T@UeŬ[]MES KURsGbMXdE2cI
aČ ZIi3bBa KABA T@UlGbZ2dUa5aÚAjBURdMdKAP EƚITElABÚNUNk2ÚAkM&ÚKUGoDAG KISIM5ÚU2ëMĽzb3dƔ Ɩ<HU
mUB ]MES<HEnEZ@ÚGUDdǁoGA2Ú.ëKAKëArSH2nE22dIGdHUSHeKAÚ.ǁeSH3eGƔdUDdHIÚĽ2nLUMdPAcSHULeTUcUR2mLAGABÚGI
nU2<HESHIGÚBADr]MES ESH2ëL%nSHUnMESHdUSH3ÚZAoNA4c*a9bDA2ÚB%dGIoU11çzcPESH2 ƍnIR2eSAGÚIGIŦs]2dUMÚME
k U;103iNUM,IC~ ï ĽgĂ ĽjÝ Ľhđ Ľiħ Ľgī ĽjE( Ľjĸ ĽiTĂ DƔkÝ DƔiđ DƔjħ DƔhī DƔkE( DƔkĸ DƔjÝ Ufđ Ugħ U
eī UhE( Uhĸ Ug:E GESH2jï GESH2iĂ GESH2lÝ GESH2jđ GESH2kħ GESH2iī GESH2lE( GESH2lĸ GESH2k:E GESHU
jï GESHUiĂ GESHUlÝ GESHUjđ GESHUkï<H&2iĂ<H&2aƢyÝ<H&2jđ<H&2kħ<H&2iī<H&2lE(<H&2lĸ<H&2k:E<H&Ujï<H&U
iĂ<H&UaƢyÝ<H&Ujđ<H&UkSH&2ÚG%ëDƔeM*y:E BURUiï BURUhĂ BURUaƢxÝ BURUiđ BURUjTĂƢ ESH16c21yÝƢ LIMMUa4b A
bBzaħƢ Ľ9uīƢ IM*3b AbBzaE(Ƣ USSUa3yĸƢ ILIMMUa3b4b Azbï Ľ T@UlĂ Ľ T@UoÝ Ľ T@Umđ Ľ T@Unħ Ľ T@Um:E B.2
iï B.2hĂ B.2kÝ B.2aƢvđ B.2aƢwNIGIDAM*dESHj:E Eǁ3jï Eǁ3j:E THIR[DƔoï THIRDS DƔpFđ<IXTHS DƔ
q:E THIR[V&I.T) Ayï THIRDSƢ Aza:E E(H ĽkQU&T, ĽoL[ASSYRI. :E<IXTHfQU&T,xNEņ GURlęGURmEƚITE :E THIRD
jï THIRDSkƂTYeIFTYnÝ UƢsđ UƢtħ UƢrī UƢuE( UƢuĸ UƢ;2zhĀ~ OL[ASSYRI. WOR[DIVID,zaØ Ʀoĩ ƦfTRIƦiQUADƦ
;12zkðABÚNUN T@UiSHU2m[]MES ESH2nBA[]MES DƔ T@UrH&2ÚAB2dNIcZAoUČ BUÚNA2uDAÚTAK4lGÚKURmIMÚIGIdU U U
m2ÚUDmUGÚ.ǁeSHa AT ālD*cUNd,*2fGAbIaR2ŦhSHe|bIcIGIŦiKASK%fURbSHU2aëKASK%sLAK-020fMaÚKURmUHëGƔnMĽdES
cIcNIcPIcǁcIŦrE2ÚKURdPAPlR*2 XgSH2 òêESH2rZ@<HESHIGÚĽdHIcIGIŦiLAaLdMEaSdSUq]MES<UnGA2ÚBAH&2gDIMŦ
hUGÚIGIŦiKASK%q,@eGAaRëDIcNEl|ëAjKUSHU2ëKASK%sƚaÚKURmUHdMUSHeNEaëE2cGIkSHIMeZIZ2mBAçzbESHT*ÚU
oƔÚGƔ òêGƔzdU2ÚIGIŦq[Ɩ GƔÚTAK4y| T@UŦlIÚĽČ HIÚĽzfKAÚBUcKAcU U UeRlLAGABÚZUČ ZUuK-003c21b5c30c50b1c62
c79Č LAK-079Ŧu80b1Č LAK-081p92d130c42d210b9c20b5b8c38c65b6d343b7b8c83b4c90d441b9aÚGUcIGIdPAPëLU3
dPAPëLU3vU2ëBAt50b7c70c83c90b2b3b5d550d608c17aÚĽdBADdDUN3ŦŦoKU3dLAcT&cEcU2bDbRUDAo36c48aÚDUBdGAcIGI
aŦiNIcPAPëPAPëLU3vǁSHëKInUDbRUDAp724c49gU2ŦÚĽo]MES DƔeH%dPAPaëPAPëLU3vTAK4oMIëZA7kUSHČ MUSHÚGAcKAK
yN*DA2ÚDIMŦiGƔdULdHIcKESH2fLAK-050hMĽePAPëPAPmUaëUhRUDAsSAGŦÚ|n]MES @cǁ AT ālTAK4n|6 T@UhEČ<HE
iƖ HUB2eNAM2eS&kU2ëDUGÚNImE2Ú.uIÚTAK4nTAK4 Ɩ<AGmUMÚG.2 T@UjTĂ DƔuUR2 *V,TEDi]MES UDkUÚD&A3fLAK-668
gU3nZA7cUČ ZU Ɩ<&r5ÚTĂ DƔ T@U;2637zoYPRO-M*O.~ CM001b2b4b5b6b7b8b9c10b1b2aBc3b5b7b9c21b3b4b5b6b7b8b9
c30b3b4b5b6b7b8b9c40b1b4b6b7b9c50b1b2b3b4b5b6b8b9c60b1b2b3b4b6b7b8b9c70b1b2b3b4b5aBc6b8b9c80b1b2b3b4
b5b6b7b8b9c90b1b2b4b5b6b7b8b9d100b1b2b3b4b5b7b8b9c10b2b4d301b2;14xEGYP]. HI,OGLYPH A001b2b3b4b5aAc6
aAbBc7b8b9c10b1b2b3b4aAc5b6b7aAc8b9c20b1b2b3b4b5b6b7b8b9c30b1b2aAc3b4b5b6b7b8b9c40aAc1b2aAc3aAc4b5aA
c6b7b8b9c50b1b2b3b4b5b6b7b8b9c60b1b2b3b4b5b6b7b8b9c70eB001b2b3b4b5aAc6b7b8b9eC001b2aAbBbCc3b4b5b6b7
b8b9c10aAc1b2b3b4b5b6b7b8b9c20b1b2b3b4eD001b2b3b4b5b6b7b8aAc9c10b1b2b3b4b5b6b7b8b9c20b1b2b3b4b5b6b7
aAc8b9c30b1aAc2b3b4aAc5b6b7b8b9c40b1b2b3b4b5b6aAc7b8aAc9c50aAbBbCbDbEbFbGbHbIc1b2aAc3b4aAc5b6b7b8b9
c60b1b2b3b4b5b6b7aAbBbCbDbEbFbGbHfE001b2b3b4b5b6b7b8aAc9aAd10b1b2b3b4b5b6aAc7aAc8b9c20aAc1b2b3b4b5b6
b7b8aAc9c30b1b2b3b4aAc6b7b8eF001aAc2b3b4b5b6b7b8b9c10b1b2b3aAc4b5b6b7b8b9c20b1aAc2b3b4b5b6b7b8b9c30
b1aAc2b3b4b5b6b7aAc8aAc9c40b1b2b3b4b5aAc6aAc7aAc8b9c50b1aAbBbCc2b3eG001b2b3b4b5b6aAc7aAbBc8b9c10b1aA
c2b3b4b5b6b7b8b9c20aAc1b2b3b4b5b6aAc7b8b9c30b1b2b3b4b5b6aAc7aAc8b9c40b1b2b3aAc4b5aAc6b7b8b9c50b1b2b3
b4eH001b2b3b4b5b6aAc7b8eI001b2b3b4b5aAc6b7b8b9aAd10aAc1aAc2b3b4b5eK001b2b3b4b5b6b7b8eL001b2aAc3b4b5
b6aAc7b8eM001aAbBc2b3aAc4b5b6b7b8b9c10aAc1b2aAbBbCbDbEbFbGbHc3b4b5aAc6aAc7aAc8b9c20b1b2aAc3b4aAc5b6
b7b8aAc9c30b1aAc2b3aAbBc4b5b6b7b8b9c40aAc1b2b3b4eN001b2b3b4b5b6b7b8b9c10b1b2b3b4b5b6b7b8aAbBc9c20b1
b2b3b4b5aAc6b7b8b9c30b1b2b3aAc4aAc5aAc6b7aAc8b9c40b1b2dL001b2b3b4b5aAc6b7b8b9c10b1b2b3b4b5b6b7aAc8b9
c20eU001b2b3b4b5b6b7b8b9c10aAc1aAc2b3b4b5b6b7b8aAc9c20b1b2aAgO001aAc2b3b4b5aAc6aAbBbCbDbEbFc7b8b9c10
aAbBbCc1b2b3b4b5b6b7b8b9aAd20aAc1b2b3b4aAc5aAc6b7b8b9aAd30aAc1b2b3aAc4b5b6aAbBbCbDc7b8b9c40b1b2b3b4
b5b6b7b8b9c50aAbBc1eP001aAc2b3aAc4b5b6b7b8b9c10b1eQ001b2b3b4b5b6b7eR001b2aAc3aAbBc4b5b6b7b8b9c10aAc1
b2b3b4b5b6aAc7b8b9c20b1b2b3b4b5b6b7b8b9eS001b2aAc3b4b5b6aAc7b8b9c10b1b2b3b4aAbBc5b6b7aAc8b9c20b1b2b3
b4b5b6aAbBc7b8b9c30b1b2b3b4b5aAc6b7b8b9c40b1b2b3b4b5b6eT001b2b3aAc4b5b6b7aAc8aAc9aAd10b1aAc2b3b4b5b6
aAc7b8b9c20b1b2b3b4b5b6b7b8b9c30b1b2aAc3aAc4b5b6eU001b2b3b4b5b6aAbBc7b8b9c10b1b2b3b4b5b6b7b8b9c20b1
b2b3aAc4b5b6b7b8b9aAd30b1b2aAc3b4b5b6b7b8b9c40b1b2eV001aAbBbCbDbEbFbGbHbIc2aAc3b4b5b6b7aAbBc8b9c10b1
aAbBbCc2aAbBc3b4b5b6b7b8b9c20aAbBbCbDbEbFbGbHbIbJbKbLc1b2b3aAc4b5b6b7b8aAc9aAd30aAc1aAc2b3aAc4b5b6b7
aAc8b9c40aAfW001b2b3aAc4b5b6b7b8b9aAd10aAc1b2b3b4aAc5b6b7aAc8aAc9c20b1b2b3b4aAc5eX001b2b3b4aAbBc5b6
aAc7b8aAfY001aAc2b3b4b5b6b7b8eZ001b2aAbBbCbDc3aAbBc4aAc5aAc6b7b8b9c10b1b2b3b4b5aAbBbCbDbEbFbGbHbIc6
aAbBbCbDbEbFbGbHfAA001b2b3b4b5b6b7aAbBc8b9c10b1b2b3b4b5b6b7b8b9c20b1b2b3b4b5b6b7b8b9c30b1b2;2fØ JO*,
pÊ JO*,r*S,T ATƩP<T&Tjœ<T&TmTOP @Dhœ @DuOV,LAY MIDD+oBEG*<EGM@Tn@D<EGM@T
;4040zg.ATOLI. HI,OGLYPH A001b2b3b4b5b6b7b8b9c10aAc1b2b3b4b5b6b7b8b9c20b1b2b3b4b5b6aAc7b8b9c30b1b2b3
b4b5b6b7b8b9aAd40b1aAc2b3b4b5aAc6aAbBc7b8b9c50b1b2b3b4b5b6b7b8b9c60b1b2b3b4b5b6aAbBbCc7b8b9c70b1b2b3
b4b5b6b7b8b9c80b1b2b3b4b5b6b7b8b9c90b1b2b3b4b5b6b7aAc8aAc9d100aAc1aAc2aAc3b4aAbBbCc5aAbBc6b7aAbBbCc8
b9c10aAbBc1b2b3b4b5aAc6b7b8b9c20b1b2b3b4b5aAc6b7b8b9c30b1b2b3b4b5aAc6b7b8b9c40b1b2b3b4b5b6b7b8b9c50
b1b2b3b4b5b6b7b8b9c60b1b2b3b4b5b6b7b8b9c70b1b2b3b4b5b6b7b8b9c80b1b2b3b4b5b6b7b8b9c90b1b2b3b4b5b6b7b8
b9d200b1b2aAbBc3b4b5b6b7aAc8b9aAd10b1b2b3b4b5aAc6aAc7b8b9c20b1b2b3b4b5b6b7aAc8b9c30b1b2b3b4b5b6b7b8
b9c40b1b2b3b4b5b6b7b8b9c50b1b2b3b4b5b6b7b8b9c60b1b2b3b4b5b6b7aAc8b9c70b1b2b3b4b5b6b7b8b9c80b1b2b3b4
b5b6b7b8b9aAd90b1b2b3b4aAc5b6b7b8b9aAe300b1b2b3b4b5b6b7b8b9aAd10b1b2b3b4b5b6b7b8b9c20b1b2b3b4b5b6b7
b8b9aAd30b1b2AbBbCc3b4b5b6aAbBbCc7b8b9c40b1b2b3b4b5b6b7b8b9c50b1b2b3b4b5b6b7b8b9aAd60b1b2b3b4aAc5b6
b7b8aAc9c70b1aAc2b3b4b5b6b7b8b9c80b1aAc2b3 RA OR RIjAc4b5b6aAc7b8b9c90b1b2b3 E(h4b5b6b7b8b9d400b1b2
b3b4b5b6b7b8b9c10 BEG* LOGOďMÕuA @[LOGOďMÕu1b2b3b4b5b6b7b8b9c20b1b2b3b4b5b6b7b8b9c30b1b2b3b4b5b6b7b8
b9c40b1b2b3b4b5b6b7b8b9c50aAc1b2b3b4b5b6b7aAc8b9c60b1b2b3b4b5b6b7b8b9c70b1b2b3b4b5b6b7b8b9c80b1b2b3
b4b5b6b7b8b9c90b1b2b3b4b5b6b7d501b2b3b4b5b6b7b8b9c10b1b2b3b4b5b6b7b8b9c20b1b2b3b4b5b6b7b8b9c30
;8634zaBAMUMżP|SE-A NGKUE MF:kGBIEE F:jP: MF: PIPAEMGBIEEfBArNAA MF:iSHU@SHUETk]TA MF:jNZA MF:
iSH*DA PA NJInP: PA NJI PIPAEMGBIEEfBAtMAEMBGBIEEkTU MAEMBAjNG.GUgMAEMVEUXgNSUAEgVEUA@GAMkSEUNYAM
hNTOQP@hKEUKEUTNDAkNK*DIgSUUdNGKU@ZEUMkLAPAQeET KUThNTAP MFAAjMAEKEUPhPAS|EgGHEUA,AEjPAMS|E
hM: NGGEUAETmNZUN MEUTjU YUQ NAEjGHEUAEGHEUAEmNTAP NTAAjSISAeMGBASAfEUNJOMNDEUQlOOMPUQhKAFA
ePA +,AEWAlNDA +,AEWAmPETdMAEMKP@iNIKAePUPdTUAEPfLUAEPfS:JAMgTEUTEUW@jMA@YIgKETdNDA.GGEUAETmKUOQ
eMOOMEUThSHUMeLOMMAEgFIRIeROMdKPOQeSOQdMAP PIEETjSHIRAEgNTAPeSHOQ NSHUT YUMoNYIT M:GKEUAEQpPA&AE
gNKA&AEhUNKNOWNhNGG@fMAESIfNJAMeMB.YIgNYETeTEUA@gSOTdPAAMeNSHIEEgMAEMeNYIdKAQdNS|eVEEdLUcN@cAQdMBAQ
gB NSHUETgTU MAEMGBIEEmSIEEdET TUgLOM NTEUMjMBA MAE+EkKIEEMfYEURAEgMBA&AEhKAMdPEESHIgYAFU +,AEWA
nƚ NSHUT NYAMoN]EE<HEUOQlDU NJAAiGHEUGHEUAEMlPITdTU NSIEEiǁT NJAQgUAEQTUjMF: TEUAEQkBIT MBAAKET
mNYI NTEUMjKEUPUQgGHEUGH@iKEUYEUXhLA.AEgP&UMfVEUMeNGK*DI MVOPkGEU MBUjWUAETfSAKEUAEhTAAMeMEUQeNGGUOQ
a ŋmMFIYAQgSUEdMBEURIf:]E@iNYAEMAEhPUƻAMhMEUT NGGEETlFEUXeMBUOQfFEEdKEUAEMgMA NJEUA@AgUQAi+TdNGGAAM
fS@eMAcKIQdNGOMgC NGKUE MAEMBAlZAdYUMdW.GKUOQiNGG@eDEUA,EEiGKAQfGH&AEgMBEEKEETiGBAYI
fNYIR MKP&AQ MEUNqTU MBITiMBEUMfPIRIE@hNDOMBUgMBAA CABBAGE-T_ErKEUǁUAEPkG|PeKEUKAQgYU MUOMAEjNZEUM
fMBUEeNSEUA@hMBITeYEUQeKP&AQfAAdSEUXeNDIDAfTAAS|EhNJUEQf]TA YUEiSUAETfNGGUA@ NYAMmVEUXeN.S.AQ
iMA KEUA,IkNTAAdGGU:gLAPdMBIRIE@hGBASAQhNTEUNGBAiTEUTEUXhNGGUMfFUEdNDEUTeSAb|QfBUNGeVEUAEP@iMB,AEgRU
cNJAEMfƚd]TUAEPhNSUOT NGOMjJEEEEgKETdNGGUeMAESIeBUAEMgLUcKUTdNJAMdGOMeWUPdNGGUEETgSOMdT@eKUOP NKA&AE
mNSUNdDAMeMA NSIEEiYAAdNDAPeSHUEQeETF:gMBIcAEMBAfB.YIgKEUSEUXhMBEUXfKEUMeMBAA PICKETlYUWOQfNJEUX
fMIEEdUAEeSHIQeK@ LAWdFA]GUElƻQdAQdLIQdP*c@dTETf[MBUOeWAPdNJIdMF:eNJIEEfLIEEeNJEUTeǁEeGGAAMAEhYAM
eWUA@fNGKUNfǁEeNGKAPfKEUAETMEUNkTEUTeǁUAEgNJAPeSUEdKETdYAEMMAEhKUOMeSAPdMFEUTfNDEUXfM%E,IgEUTeSEUAEQ
gY@dNJEUAEMhKEUOT MBUAElNGKEURIhTUcG|AeNGKYEEgFEUFEUAETjNDEEeMGBOFUMh+UAEPgND:eM:IdGBEUNgPUUTeMGBIEE
fFOdLUMdNSIEEPgMBAAeKWAETfNYETeTEUA@gSOTdYUWOQfKEUMeRAEMeTEEEEfNGKEUAEQiMFEUAEgNSIEETgKEUPePIPcEUTAE
gNYUEe+TdNGGAAMgMFIEEfNGGWA@hYUOMePAPdYUOPeNDAMdTEUMfSUAEeKUNdNGGEUXeKIEEgTUOTeMEUNeKUQdNSUMeTEUN
eMA@JEThNGGAPf+UMeNGGUOMfSHUTeJUEQfGHEUAEgKUcR@ OLDhTAEcOQdNYIdRIId+EEEfMEEEEebSUUdMUcSHIIcEUXfKYEE
eNUcSHUdNTEEePEEdNIcSHOQePUQdMVOPeLOQdR@ MUCHi]cNTUUeMBAA<īkSAQdFAAfE NDAPeTO:eMBEUMfLAPdVOMdLO:ePAA
dSOMdRAQdNSHUOPfDUNePUAEeTAMdNGKAeKPEUXfWUOdSEEdNGGEUAETiPAAMeTOOdKUOPeLOMdNSHIEEfGOPeMAEMeNGKEUXeOQ
dSHUEfRIMGBAgNJEUXfPEEMeSAAdNGGURAEhMGBAeGHEUXfNGKEUAEMhJAEMLIhMAPdLOOTeNGGEEEEgDIQeTA@ NTEUMkSET
dPUMdNDAA<OFTNESSmGGUAES|E NYAMpYIEEeGHEUNfTUAEeYEUAEfPOcTUMAEfKEUAEfSUA@fTEUAEQgVEUAEfWEUXeLAAMePU
cTAAQeG|AMAEhNGEU_UTiǁUAEQhMGB@eBEEeNZAQdKOMeGBETeTUMdKUETeYAPdNYI C+AV,lYITdMFEUQfNDIAQfPIEEQfYUEQ
e+UAEMgFUEdGBEUXfNGKUPfKETdMAEdNGKAAMIhGHETeFAcNTUMePEUTeYEUMeNGGEUAEgYI BETWE@kZUQePO:eMIEEeFUET
eNAEdMUAEeGHEUAEgFU IeMVIdPUAQeNGKUMfKUTdPIETeNTAPeYEUAETgNGGUPfPA PEOP+jFU C%LgOMdNJEEeAbTOQdObI
bLAQdPA PLUR%jTAAbQdNDAA MY HOUSEnSHIQeYEUXeNGUAEfYUA@eOQ<WIMM*GiCOV,iUQbNdKEUXePEUXeNJEE EPOCHkPUE
dWUEdFEEdVEEdLUcMIc_UXdAEdNGUAETeAdSHOaQeFU _MEDYjNAcPIcLOQdKOcM@cAaQdTEUdKIcM:dT@dFAQdGHOMgF KAcU
bKUcEEc_EdTAEdNYIdLAcRIIbEEeMEEEEfTAAdNDAAdJAEMfMbSUUcHIIdIbEUXeKYEEdETdNUAEcbJUAEfYOQdSHUdYAcNS|
ePEUXeNTEEeWUEdPEEdRUcNIc_UXeK@dNGKWA@fGAeSHOdPUAEeFOMdWAcLIbOQdKOcMB@eR@dMAbObBAAeTETdKPAdSAMBA
fVUEQ;8zaMROżTAcNGIdYOcMIMdBAcDAcAbPHIdK|Ie|OdDAIdCHUdKEAAEfOLcMAEMeN*dPAcOObbROcSHIdƉAeEAcWAcEbKO
cL.bc|IdRIcTEK;2kÖe:EdïcĂfÝdđeħcīfE(fĸ;5j.DAeƘqT.GSAżOZbCbQbXcAZbCbQbXcVZbCbQbXcEZbCbQbXcIZbCbQbXcUZ
bCbQbXcAWZbCbQbXdUIZbCbQbXdF*% NGiŭUEXiŁ UEZdAWXjUECbZbQbXcIUZbCbQbXeMZbCbQbXcKAb|dGAcƻdSAcYAcWAcPA
cNYAdP|dBAcMAcNAc|cLAcHTAdTAcDAcRAcN|dS|dCAcTSAdG|dHTTAeT|dXAcFAcD|dC|dZA;2jÖe:EdïcĂfÝdđeħcīfE(fĸ
;7rBASSA VAHż@NIeKAcSEcFAcMBEdYIEdGAHdDHIIeKPAHeJOcHWAHeWAcZOcGBUdDOcCEcUWUdTOcBAcVUcYE*ePAcWADDAfA
bOaOcUbEEbbI;3iĳĘƥjĠƥiMI[ƥiLOW-MI[ƥmHIGH-ĠƥxĄ;11tPA|WH HM:G VOWEL KEEBbVdIBbVcAUBbVdUBbVcEBbVcAIBbV
dOOBbVdAWBbVdUABbVdOBbVcIABbVdABbVcWBbVcAABbVkC:S:.T VAUdNTSAUfLAUd|UdNLAUeRAUdNKAUeQ|UeYAUdHLAUeMAU
dC|UeNC|UfHNAUePL|UfNT|UeAUdAUcXAUdCAUnM&K CIM TUBdSOcKESc|VeSUAMeHOMdTAUMnðVOS THOMdS|B CEEB
oCIM ŨEMjVOS THIABfFEEMiXYEEM NTXIVfRHOdTOVdFAIBkVOS<EEViMEEJ<UABjVOS NRUAiIB YAMgXAUSeCIM TSOV ROG
;11rÖe:EdïcĂfÝdđeħcīfE(fĸ;2kėT@SeHUND_DSiT@ƧSnMILLI:SiHUND_[MILLI:SqT@ BILLI:SlRILLI:S;2qðVOS LUB
hXYOOeHLIdTHIRD-STAGE HLIpZWJ T|JiHNUBeNQIGeXIABeNTUJeAVcTXHEEJ CEEVlMEEJ TSEEBkTAUdLOSdMUS
dCIM |IS LUS NTOG NTOGsCUAM TSHOOJlTXWVa CHWVjPUB DAWBiN_SƩS;6rCL.~ TǁEJgYEEGeLIScAUJeXYOOJfKOOd|WJ
eMUASeTHOJdSABeP|BeK|Be|MdVAJdFAJdYAJdTSWBeKWMdVWJ;689zbMEDEFAIDR* $MbSbVbWbA]UeZbKPcPbTbGbFbIbKbAbJ
bEbBbCbUbYUcLbQbHPcNYcXbDbOEcNbRbObAIcYq?MbSbVbWbA]UeZbKPcPbTbGbFbIbKbAbJbEbBbCbUbYUcLbQbHPcNYcXbD
bOEcNbRbObAIcYoÖe:EdïcĂfÝdđeħcīfE(fĸkėT@dE+V@gTWELVEfHIRTE@iÝTE@hIFTE@hħTE@gīTE@jE(E@iĸTE@pƊ ĻE)
sï ĻE)rĂ ĻE)zbĨfĄjSYMBOL AIVAlEXCƚŧ OH;102zaIAOżPAcBAcYI PAfPLAdMAb|d&C|ŌMAkFAcVAbFAdTAcDAcYI TTAcA
fTTAdDDAdNAb|dYI NNAg&C|ŌNAkNNAb|eLAbYAc|bYAeTL|eDL|eTLHYAfDLHYAfKAcGAcYI KAfQAbGAdƻb|e&C|Ōƻl|cXAcG|
b|eTSSAeDZZAeNYAb|eTS|eDZ|eYI TS|eDZ|h_ƂME[TS|nS|cSAdZ|cS|eTSAdDZAdYI TSAgSAcZAbSAcZAbSAe&C|ŌZZA
lZZYAcSYAfWAcAHcH|dBRIdSYIdDZYIeTEbSEdRTE;5kðC:S:.T ŀģzcÂNAS%IZŧtðASPIRŧk_ƂME[VOIC*GhASPIRŧyäAaAbHH
cNaGdOaOcWObbEaNaGdOEYdIaAaNaGdObEbIbUbNGdUaAaNaGdUbEIcNGdYaIcAEaEd,RdRƓDE[,Rl,cRƓDE[,kAIcEIcAUcOUcN
aGcUOGdYUIdOGb,dVWcIGcEAcI:GeUI;8nƥ R(fTOP R(jABOVEfŤkÂƥ-2b3b4b5b6b7b8g_ƂME[ƥ-1b2b4b5b6b8
;65zcT.GUT IT,AĈvNUSHU IT,AĈuOL[CH*ESE àÕjIT,AĈzbKHIT.ƀ<ńFIL+R;12zbVIETNAMESE ĻE _AD*GÕ CAcN|Y
;6159znT.GUT COMP:@T-001b2b3b4b5b6b7b8b9c10b1b2b3b4b5b6b7b8b9c20b1b2b3b4b5b6b7b8b9c30b1b2b3b4b5b6b7
b8b9c40b1b2b3b4b5b6b7b8b9c50b1b2b3b4b5b6b7b8b9c60b1b2b3b4b5b6b7b8b9c70b1b2b3b4b5b6b7b8b9c80b1b2b3b4
b5b6b7b8b9c90b1b2b3b4b5b6b7b8b9d100b1b2b3b4b5b6b7b8b9c10b1b2b3b4b5b6b7b8b9c20b1b2b3b4b5b6b7b8b9c30b1
b2b3b4b5b6b7b8b9c40b1b2b3b4b5b6b7b8b9c50b1b2b3b4b5b6b7b8b9c60b1b2b3b4b5b6b7b8b9c70b1b2b3b4b5b6b7b8b9
c80b1b2b3b4b5b6b7b8b9c90b1b2b3b4b5b6b7b8b9d200b1b2b3b4b5b6b7b8b9c10b1b2b3b4b5b6b7b8b9c20b1b2b3b4b5b6
b7b8b9c30b1b2b3b4b5b6b7b8b9c40b1b2b3b4b5b6b7b8b9c50b1b2b3b4b5b6b7b8b9c60b1b2b3b4b5b6b7b8b9c70b1b2b3
b4b5b6b7b8b9c80b1b2b3b4b5b6b7b8b9c90b1b2b3b4b5b6b7b8b9d300b1b2b3b4b5b6b7b8b9c10b1b2b3b4b5b6b7b8b9c20
b1b2b3b4b5b6b7b8b9c30b1b2b3b4b5b6b7b8b9c40b1b2b3b4b5b6b7b8b9c50b1b2b3b4b5b6b7b8b9c60b1b2b3b4b5b6b7b8
b9c70b1b2b3b4b5b6b7b8b9c80b1b2b3b4b5b6b7b8b9c90b1b2b3b4b5b6b7b8b9d400b1b2b3b4b5b6b7b8b9c10b1b2b3b4b5
b6b7b8b9c20b1b2b3b4b5b6b7b8b9c30b1b2b3b4b5b6b7b8b9c40b1b2b3b4b5b6b7b8b9c50b1b2b3b4b5b6b7b8b9c60b1b2
b3b4b5b6b7b8b9c70b1b2b3b4b5b6b7b8b9c80b1b2b3b4b5b6b7b8b9c90b1b2b3b4b5b6b7b8b9d500b1b2b3b4b5b6b7b8b9
c10b1b2b3b4b5b6b7b8b9c20b1b2b3b4b5b6b7b8b9c30b1b2b3b4b5b6b7b8b9c40b1b2b3b4b5b6b7b8b9c50b1b2b3b4b5b6
b7b8b9c60b1b2b3b4b5b6b7b8b9c70b1b2b3b4b5b6b7b8b9c80b1b2b3b4b5b6b7b8b9c90b1b2b3b4b5b6b7b8b9d600b1b2b3
b4b5b6b7b8b9c10b1b2b3b4b5b6b7b8b9c20b1b2b3b4b5b6b7b8b9c30b1b2b3b4b5b6b7b8b9c40b1b2b3b4b5b6b7b8b9c50
b1b2b3b4b5b6b7b8b9c60b1b2b3b4b5b6b7b8b9c70b1b2b3b4b5b6b7b8b9c80b1b2b3b4b5b6b7b8b9c90b1b2b3b4b5b6b7b8
b9d700b1b2b3b4b5b6b7b8b9c10b1b2b3b4b5b6b7b8b9c20b1b2b3b4b5b6b7b8b9c30b1b2b3b4b5b6b7b8b9c40b1b2b3b4b5
b6b7b8b9c50b1b2b3b4b5b6b7b8b9c60b1b2b3b4b5b6b7b8uKHIT.ƀ<ńơ-18B00b1b2b3b4b5b6b7b8b9bAbBbCbDbEbFc10b1
b2b3b4b5b6b7b8b9bAbBbCbDbEbFc20b1b2b3b4b5b6b7b8b9bAbBbCbDbEbFc30b1b2b3b4b5b6b7b8b9bAbBbCbDbEbFc40b1
b2b3b4b5b6b7b8b9bAbBbCbDbEbFc50b1b2b3b4b5b6b7b8b9bAbBbCbDbEbFc60b1b2b3b4b5b6b7b8b9bAbBbCbDbEbFc70b1
b2b3b4b5b6b7b8b9bAbBbCbDbEbFc80b1b2b3b4b5b6b7b8b9bAbBbCbDbEbFc90b1b2b3b4b5b6b7b8b9bAbBbCbDbEbFcA0b1
b2b3b4b5b6b7b8b9bAbBbCbDbEbFcB0b1b2b3b4b5b6b7b8b9bAbBbCbDbEbFcC0b1b2b3b4b5b6b7b8b9bAbBbCbDbEbFcD0b1
b2b3b4b5b6b7b8b9bAbBbCbDbEbFcE0b1b2b3b4b5b6b7b8b9bAbBbCbDbEbFcF0b1b2b3b4b5b6b7b8b9bAbBbCbDbEbFdC00b1
b2b3b4b5b6b7b8b9bAbBbCbDbEbFc10b1b2b3b4b5b6b7b8b9bAbBbCbDbEbFc20b1b2b3b4b5b6b7b8b9bAbBbCbDbEbFc30b1
b2b3b4b5b6b7b8b9bAbBbCbDbEbFc40b1b2b3b4b5b6b7b8b9bAbBbCbDbEbFc50b1b2b3b4b5b6b7b8b9bAbBbCbDbEbFc60b1
b2b3b4b5b6b7b8b9bAbBbCbDbEbFc70b1b2b3b4b5b6b7b8b9bAbBbCbDbEbFc80b1b2b3b4b5b6b7b8b9bAbBbCbDbEbFc90b1
b2b3b4b5b6b7b8b9bAbBbCbDbEbFcA0b1b2b3b4b5b6b7b8b9bAbBbCbDbEbFcB0b1b2b3b4b5b6b7b8b9bAbBbCbDbEbFcC0b1
b2b3b4b5b6b7b8b9bAbBbCbDbEbFcD0b1b2b3b4b5;8987zjATAK.AżM*N. ƥ-2b3b4b5;2b7b8gNAS%IZE[ƥ-1b2b3b4b5;2b7
b8;2x&C|ŌEzaHIRAG.Aż&C|ŌYEza@TAIG.AżA-1b2b3bWOeI-1b2b3b4dU-1b2b3b4b5dE-2b3b4b5b6dO-1b2b3dKA-1b2b3b4
b5b6b7b8b9b10b1cKEeI-1b2b3b4b5b6b7b8dU-1b2b3b4b5b6b7dE-1b2b3b4b5b6dO-1b2b3bKIfSA-1b2b3b4b5b6b7b8dI-1
b2b3b4b5b6dU-1b2b3b4b5b6b7b8dE-1b2b3b4b5dO-1b2b3b4b5b6b7eTA-1b2b3b4dI-1b2b3b4b5b6b7dU-1b2b3b4bTOeE-1
b2b3b4b5b6b7b8b9dO-1b2b3b4b5b6bRAfNA-1b2b3b4b5b6b7b8b9dI-1b2b3b4b5b6b7bTEeU-1b2b3dE-1b2b3b4b5b6bKO
eO-1b2b3b4b5e|-1b2b3b4b5b6b7b8b9b10b1eI-1b2b3b4b5b6b7dU-1b2b3dE-1b2b3b4b5b6b7dO-1b2b3b4b5b6b7b8eMA-1
b2b3b4b5b6b7dI-1b2b3b4b5b6b7dU-1b2b3b4dE-1b2bMAeO-1b2b3b4b5b6eYA-1b2b3b4b5bYOeU-1b2b3b4dO-1b2b3b4b5
b6eRA-1b2b3b4dI-1b2b3b4b5b6b7dU-1b2b3b4b5b6dE-1b2b3b4dO-1b2b3b4b5b6eWA-1b2b3b4b5dI-1b2b3b4b5dE-1b2b3
b4dO-1b2b3b4b5b6b7eN-MU-MO-1b2zbIRAG.Aż&C|ŌWUzbKATAK.Aż&C|ŌYIbEcWU;46zbHIRAG.A +TT,<áWIbEbO
;18yKATAK.A +TT,<áWIbEbOcN;9xNUSHU ơ-1B170b1b2b3b4b5b6b7b8b9bAbBbCbDbEbFc80b1b2b3b4b5b6b7b8b9bAbBbC
bDbEbFc90b1b2b3b4b5b6b7b8b9bAbBbCbDbEbFcA0b1b2b3b4b5b6b7b8b9bAbBbCbDbEbFcB0b1b2b3b4b5b6b7b8b9bAbBbC
bDbEbFcC0b1b2b3b4b5b6b7b8b9bAbBbCbDbEbFcD0b1b2b3b4b5b6b7b8b9bAbBbCbDbEbFcE0b1b2b3b4b5b6b7b8b9bAbBbC
bDbEbFcF0b1b2b3b4b5b6b7b8b9bAbBbCbDbEbFd200b1b2b3b4b5b6b7b8b9bAbBbCbDbEbFc10b1b2b3b4b5b6b7b8b9bAbBbC
bDbEbFc20b1b2b3b4b5b6b7b8b9bAbBbCbDbEbFc30b1b2b3b4b5b6b7b8b9bAbBbCbDbEbFc40b1b2b3b4b5b6b7b8b9bAbBbC
bDbEbFc50b1b2b3b4b5b6b7b8b9bAbBbCbDbEbFc60b1b2b3b4b5b6b7b8b9bAbBbCbDbEbFc70b1b2b3b4b5b6b7b8b9bAbBbC
bDbEbFc80b1b2b3b4b5b6b7b8b9bAbBbCbDbEbFc90b1b2b3b4b5b6b7b8b9bAbBbCbDbEbFcA0b1b2b3b4b5b6b7b8b9bAbBbC
bDbEbFcB0b1b2b3b4b5b6b7b8b9bAbBbCbDbEbFcC0b1b2b3b4b5b6b7b8b9bAbBbCbDbEbFcD0b1b2b3b4b5b6b7b8b9bAbBbC
bDbEbFcE0b1b2b3b4b5b6b7b8b9bAbBbCbDbEbFcF0b1b2b3b4b5b6b7b8b9bAbB;2309vDUPLOY.żHbXbPbTbFbKbLbBbDbVbG
bRbP NdD<dF NdK MdR<dTHcSLO. DHiDHcKKcSLO. JhHLcLHcRHcMbNbJbSbM NdN MdJ MdS JdM#ßkN#ßkJ#ßaS *Sũ .D>
zdS#ßaÀqM<dN<dJ<dS<dM N<fN M<fJ M<fS J<fJ<#ßkNa<fS Ta RdPa RfT<bR<fWaHb RdS NbMdK R<fG R<fS Ka RfA
bSLO. OWiOAbbAOUdIbEbIEcŁ IhUIcEEcSLO. EHiROM.I. IkSLO. EEiŭIgYEcUbEUcXWcU NdŭUgROM.I. UkUHcSLO. U
hOOHcWbUcWAbObIbEIcOWdNAS% UbObIbAhP,N* .bMjSLO. @c.c:iVOC%ŌM;6qAFFIX ÎÊ<EC.TwMI[Ê<EC.TvăÊ<EC.T
xĠØ<EC.TtMI[Ø<EC.TtĘØ<EC.TuATTAŨD<EC.Tgā-TO-R(<EC.TuT.G@TfILeE àgI àgT.G@T à;4vĘûfT( ûlŃfŭŃkßdËgŜ
eWAVEeØ;8nĠûfT( ûlŃfŭŃkßdËgŜeWAVEeØi&ROW;3pðO#òrTHICK +TT,<E+CTORvÁÕlĀ CH*OOK ĄznŁH.D)ATżOV,LAP
oC:T*UêOV,LAPsÙ<TEPjUP<TEP;4701yZNAM@NY COMB**GÕ GORAZDO NIZKO< KRYZHEM : āzgNIZKO< KRYZHEM : ā
xTSATA : ānGORAZDO NIZKO : āvNIZKO : ānS_DNE : āoM%O POVYǁ : āuPOVYǁ : āpVYSOKO : ā
oM%O POVYǁ< KHOKHLOM : āzgPOVYǁ< KHOKHLOM : āzbVYSOKO< KHOKHLOM : āzaGORAZDO NIZKO< KRYZHEM : R(
zhNIZKO< KRYZHEM : R(yTSATA : R(oGORAZDO NIZKO : R(wNIZKO : R(oS_DNE : R(pM%O POVYǁ : R(vPOVYǁ : R(
qVYSOKO : R(pM%O POVYǁ< KHOKHLOM : R(zhPOVYǁ< KHOKHLOM : R(zcVYSOKO< KHOKHLOM : R(zbTSATA< KRYZHEM
pM%O POVYǁ< KRYZHEMwSTR.NO M%O POVYǁuPOVYǁ< KRYZHEMiTR.NOpVYSOKO< KRYZHEMqM%O POVYǁ<TR.NO
uGORAZDO VYSOKOoZELOe:cRAVNOf]K|YAhBORZAYAhUD&KAgPODV,TKAjLOMKAfKUPNAYAgACHKAgZEVOKfSKOBAfRAZSEKA
hKRYZH : ā;3sT:% R.GEÕ MRACHNOhSVETLOgT_SVETLOzbM&K ZAD,ZHKAjDEMESTV@NY ZAD,ZHKAvOTSECHKAiPODC|SHIE
a#ØƈzgC|SHKAa POLNAYApOBLACHKOiSOROCHYA NOZHKApTOCHKAgDVOETOCHIEpATTACHêØ OMETxM&K ƽ[OMETlKRYZH
köT:% R.GE *DICATORzmPRIZNAK ŀ +VEL-2b3hDI_C]: FLIPoKRYZHfROG;10uNEUME KRYUKa ]KHYlP&AKLIT
iDVA V ŨLNUmKLYUCHgZ.OZHEKiSTOPITSAa< OCHKOMrP,EVODKAa NEPOSTOťYAySTOPITSA#SOROCHYA NOZHKAzeŨLYUSTKA
kP%KAfZAPYATAYAjGOLUBCHIK BORZYf]KHYfMRACHNYhSVETLYgT_SVETLYtVRAKHIYA PROSTAYAiMRACHNAYAjSVETLAYA
iT_SVETLAYAlKLYUŨVAYA PROSTAYAiMRACHNAYAjSVETLAYAiT_SVETLAYAzhĭZAPYATAYAqý[ŨLYUSTKAtD,BITSAiK|MILO
hC|SHKAhPODC|SHIEkSKAMEYTSA MRACHNAYAjSVETLAYAiT_SVETLAYAkIK|YArDEMESTV@NY KLYUCH
sSKAMEYTSA KLYUŨVAYA<VETLAYAnNEPOSTOťYAoVAYA ]K|YAtDVOEŨLNAYA PROSTAYAiSVETLAYAiNEPOSTOťYAoKLYUŨVAYA
ziLOZHI]Ea< ZAPYATOYkZAKRYTOEiS KRYZHEMtKRYZHfROGdFITAeKOBYLAgZMEYTSAhSTATYAa< ZAPYATOYiKRYZHEM
hZAPYATOY I KRYZHEMsKRYZHEM I ZAPYATOYuZAKRYTAYAa< ZAPYATOYuS ROGOMfDVUMYA ZAPYATYMI
qZAPYATOY I PODC|SHIEMzgPOLKULIZMYkSTATYA NEPOSTOťYAt_LA PROSTAYAiMRACHNO]K|YAoKRYZHEVAYAkPOLUƺ
lVODNAYAjNEPOSTOťYAoKLYUŨƺjNEPOSTOťYAv]K|YA PUTNAYApDVOEŨLNAYAdOKRYZHEVAYAkƺkAYA KLYUŨVAYA
pOƺ KLYUŨVAYAzgGROMNAYA#S*G+ ZAPYATAYAzbOƺ#S*G+ ZAPYATAYAzhNAYAeOƺa#ĭZAPYATAYAzgKRYZHEVAYAa ƺ
zhMECHIKa POVODNYhKLYUŨVOYdPOVODNYhNEPOSTOY.NYzbST_LA TRYASOGLASNAYAiƺjST_LNAYAwOSOKAa<VETLAYA
iT_SVETLAYAlKRYUKOVAYA<VETLAYAsLYUŨVAYA<VETLAYAiNEPOSTOťYAzhST_LA KRYUKOVAYAa ƺ
jGROMNAYA#S*G+ ZAPYATAYAzbOƺ#S*G+ ZAPYATAYAzhNAYAeOƺa#ĭZAPYATAYAzgKRYZHEVAYAa ƺzaTRYASKAzaKUFISMA
hOBLAKOgDUDAeNEMKAfPAUK;61tBYZ.T*E MUSIC%Æ PSILIfDASEIAgólOXEIA EKF:I]K:lDIPLIlV&EIA EKF:I]K:lDIPLI
mKATHIS]iSYRMA]KIjP&AKLI]KIlYPOKRISISa DIPLIpK_MAS]iAPESO EKF:I]K:rEXO EKF:I]K:pTE+IAgK@]MATA
jAPOSTROFOSa DIPLIqSYNEVMAhTHITAfOLIG: &C|I:pGORG: &C|I:pĲgC|MIL:iVATHYfIS: &C|I:nK@]MA &C|I:
jTA &C|I:sSAXIMATAiP&ICH:iSTAVROS APODEXIAqOXEIAI &C|I:pV&EIAI &C|I:qAPOD,MA &C|I:oƉMAiKLASMAg_VMA
fPIASMA &C|I:pT*AGMAh.ATRICHISMAmSEISMAfYNAGMA &C|I:iMETA<TAVROUuOYR.ISMA &C|I:sƉMAf+MOIfDYOdTRIA
dESS,AhKRA]MATAjAPESO EXO NEOnFTHORA &C|I:pIMIFTHORAjTROMIK: &C|I:rKATAVA TROMIK:pPELAST:hSIFIST:
jK:TEVMAiCHO_VMA &C|I:rRAPISMAhP&AK%ESMA &C|I:pLI]KI &C|I:uIC|D*hN.AePETASMAhK:TEVMA %LOnTROMIK: %LO
nSTRAGGISMATAmGR:THISMATAmIS: NEOiOLIG: NEOjXEIA NEOjPETAS]hKOUFISMAiPETASTOKOUFISMApKRA]MOKOUFISMA
pPELAST: NEOmK@]MATA NEO .Ok NEO .OpYPSILIgAPOSTROFOS NEOfI<YNDESMOS NEOyYPORROIhKRA]MOYPORRO:
pELAFR:hC|MILIhMIKR: IS:lV&EIA NEOkPIASMA NEOjSIFIST: NEOnOM%:g.]K@OMAkLYGISMAhP&AKLI]KI NEO
k%ESMA NEOpET,: P&AK%ESMAsKYLISMAh.]K@OKYLISMApTROMIK: NEOmEKST_PT:kSYNAGMA NEOjRMAfCHO_VMA NEO
mEPEG,MAiSEISMA NEOkXIR: KLASMAmTROMIKOPSIFIST:qPSIFISTOLYGISMApTROMIKOLYGISMAhP&AK%ESMA
sPSIFISTOP&AK%ESMAtTROMIKOSYNAGMAoPSIFISTOSYNAGMApGORGOSYNƉT:o&GOSYNƉT:nET,: &GOSYNƉT:uOYR.ISMA NEO
nƉMA]SMOS ESOcXOk APLƓjS KAI APOƉSqKATAVASMAj@DOF::jYF@ KATOe.OiSTAVROShKLASMA .OkDIPLI &C|I:
oKRA]MA &C|I:hLLOeNEOlAPOD,MA NEOkLIeDIPLIfTRIPLIfETRAPLIiKOR:ISh+IMMA @OS CHR:OUmDYO CHR::
lTRI: CHR::mESS&: CHR::qIMISEOS CHR:OUwGORG: NEO .OhP&ES]GM@: &IST,AiDEXIAzbDIGORG:
a P&ES]GM@: &IST,A KATOe.OmDEXIAzdTRIGORG:j&G:fIMIDI&G:kDI&G:hAGOGI POLI &GIj&GOT,IfIeMETRIAeSI
eGORGIbOT,IjPOLI GORGIqM&TYRIA PROTOS ICHOSm%LI PROTOS ICHOSrDEYT,OS ICHOSo%LI DEYT,OS ICHOS
tTRITOS ICHOSjF:IASiET&TOS ICHOSf+GETOS ICHOSw+GETOS ICHOSnPLAGIOS ICHOSwISAKIA TELOUS ICHIMATOS
xAPOSTROFOI TELOUS ICHIMATOSzcF.,OSIS TETRAF:IASlM:OF:IASkDIF:IASsM&TYRIA V&YS ICHOSlPROTOV&YS ICHOS
pLAGIOS TET&TOS ICHOSzgGORTHMIK: N APLƓgDIPLƓu@&XIS KAI FTHORA VOUwIMIF::eTHOR:
kFTHORA &C|I: DEYT,OU ICHOUxDIAT:IKI PAcN.AoNAOS ICHOSkDIAT:IKI DImSKLIR: DIAT:: DItDIAT:IKI KEcZO
cNI KATOe.OqM%AK: CHROMA DIF:IASiM:OF:IASzgHTORA<KLIR: CHROMA VASISzbTHORA<KLIR: CHROMA<YNAFIvN@.O
nCHROA ZYGOSfKLIT:gSPATHImFTHORA I YFESIS TET&]MORI:w@&M:IOS .]F:IAzcYFESIS TRI]MORI:
sDIESIS TRI]MORI:kET&]MORI:nAPLI DYO DODEKATArM:OďMMOS TESS,A DODEKATAzdDIďMMOS EX DODEKATA
vTRIďMMOS OKTO DODEKATAzgYFESIS APLI DYO DODEKATArM:OďMMOS TESS,A DODEKATAzdDIďMMOS EX DODEKATA
vTRIďMMOS OKTO DODEKATAzgG@IKI DIESISgYFESISnDIASTOLI APLI MIKRIeEG%IlDIPLIfƉSEOSqSIM.SIS ƉSEOS
a DISIMOUhTRISIMOUhETRASIMOUs&SEOSa DISIMOUhTRISIMOUhETRASIMOUzbDIďMMA GGjFTOGGOS OUmS]GMAg&K]KO PA
cVOUdGAcDIcKEcZOcNIkK@]MATA NEO MESOl NEO MESOjTA NEO KATOl NEO KATOpLASMA KATOlGORG: NEO KATO
;11zpMUSIC%ÆŖģŜoÁģŜoF*%ģŜný F*%ģŜvDĽE[B&ŜoŁģŜnÎ_PEAT~qă_PEAT~qEPEATēlD%<EGNOh CAPOhSEGNOfCODA
e_PEAƕFIGU_-1b2b3rF,MATAaÀnB_ATHÕlCAESURAhBRACEbKETh:E-Ŝ<TAFFoï-Ŝ<TAFFnĂ-Ŝ<TAFFqÝ-Ŝ<TAFFođ-Ŝ<TAFF
pħ-Ŝ<TAFFkSTRêF_TBO&DuÝ-STRêF_TBO&DvG C+Fa OTTAVA %TAeBASSAtC C+FgF C+Fa OTTAVA %TAeBASSAtDRUM C+F-1
b2;3lMUL]P+ MEASU_ _STvÁ<H&PfFLATlFLAT UPcÙjNATUR% UPcÙmSH&P UPcÙkQU&T, ƥ<H&PfFLATrCOMM: ]MEkUT ]ME
iOTTAVA %TAeBASSAmQU*DICESIMA %TAeBASSAsMUL] _STkWHO+ _STkę_STjQU&T, _STmE(H _STlħTE@TH _ST
oTŰ-SEC:[_STsħTY-ÝTH _STr:EűTƣ-E(H _STzfXōEĦkƖōEĦnË XōEĦrŬōEHEA[ÇfÅvéōEHEA[UP ÇfÅiÎÇfÅkăÇfÅlÙ ÇfÅ
kUP ăÇfÅzhMO:ōEHEA[ÇfÅté-RƓ[NOTEHEA[Ù ÇfÅzjúōEĦuVOI[NOTEĦnNOTEHEA[ÅnULLōEĦnCLUST,ōEHEA[ÇfÅwŵfWHO+ōE
kęNOTEjQU&T,ōEmE(HōElħTE@THōEoTŰ-SEC:[NOTEsħTY-ÝTHōEr:EűTƣ-E(HōEzfCOMB**G<TEMdP_CHGES.G<TEMrT_MOLO-1
b2b3tF*G,E[T_MOLO-1b2b3sĳAUGM@Tŧ ßqFLAG-1b2b3b4b5qBEG* BEAMk@[BEAMiBEG* ]Ej@[]EhBEG*<LURk@D<LUR
iBEG* PHRASEm@[PHRASEkĳACC@TgSTACCATOiT@UTOgSTACCA]SSIMOnM&CATOa-STACCATOqACC@T-STACCATOpLOU_
p&PEGGIATO UPcÙpĳDOITeRIPdFLIPeSME&fB@DeĭT:GUEnő T:GUExR*ƂZ.DOlSUBITOgZbPI.OfMEZZOfƂTEfC_SC@DO
jDEC_SC@DOlďCEōE<LĽfNO<LĽtTRbURNeĒTURNnTURN<LĽfUPhąƈ-1b2b3b4b5b6b7b8b9b10b1s|UPTS]MMElNEB@S]MME
l@[OF<]MMEnDEG_E<LĽmĳÙ BOWiUP BOWgH&M:ICiSNAP PIZZICATOyPED%ÕeUPÕnęPED%ÕpGLISS.DO UPcÙ
oWITH F*G,NAILSqDAMPa %LiMAXIMAgL:GAfB_VISgSEMIB_VIS ÇfÅqM*IMAa ÅmSEMIM*IMA ÇfÅqFUSA ÇfÅ
kL:GA P,FECTA _STnIMP,FECTA _STvB_VIS _STlSEMIB_VIS _STpM*IMA _STlSEMIM*IMA _ST
pTEMPUS P,FECTUM CUM PROLŧE P,FECTAiIMP,FECTAkP,FECTA DIM*U]:-1zvIMP,FECTUM CUM PROLŧE P,FECTA
iIMP,FECTAa DIM*U]:-1b2b3zzhCROIXfG_GORI. C C+FgF C+FqŬ BiVIRGAfPODATUShCLIVISgSC.DICUSjCLIMACUS
iTORCULUSiPOR_CTUSa F+XUSqSC.DICUS F+XUSqTORCULUS _SUP*USsPES<UBPUNC]SoKIEV. C C+Fg@[OF PIECEmF*%ōE
k_CITA]VEÕpWHO+ōEkęNOTEjQU&T,ōE<TEM ÙeUPuE(HōE<TEM ÙeUPtFLAT~qSORIeKOR:;22uG_EK VOC%ōŧÆ-1b2b3b4b5b6
b7b8b9b10b1b2b3b4b5b6b7b8b9c20b1b2b3b4c50b1b2b3b4y*STRUM@T%ōŧÆ-1b2b4b5b7b8b11b2b3b4b7b8b9c23b4b5b6b7
b9c30b2b6b7b8b9c40b2b3b5b7b8b9c50b1b2b3b4zmĳG_EK MUSIC% TRISEMEgETRASEMEjP@TASEMEziG_EK MUSIC% +IMMA
;155uMAY. NUM,% Z,Oe:EdïcĂfÝdđeħcīfE(fĸeT@dE+V@gTWELVEfHIRTE@iÝTE@hIFTE@hħTE@gīTE@jE(E@iĸTE@
;13v:OďM Ƃ E&THsDIďM Ƃ HEAV@LY E&THnUM. E&THlE&THLY HEAV@fUM.iqTETRAďM Ƃ ŕgFULL ËlMI_DfB&RI,hKEEP*Gƀ
nC:TR&IETYlASC@TgOPPOSI]:kBR.CHêƱnDEFEC]V@ESS OR DISTOR]:zbIV,G@CEkYƱHFULNESSm*C_ASEiP@ETRŧl_ACH
fC:TACThHOLDêBƴmWAIT*GhFOLLOW*GjADV.CEh_+ASEfSIST.CEkEASEeJOYdC:T@]:k@DEAVOURjDU]ESgCH.GE
gDECISIV@ESSmBOL[_SOLU]:pPƴ*Gh+GI:gCLOS@ESSjK*SHIPhGATH,*GjSTR@GTHiPURITYgFULLNESSi_SID@CE
jLAW OR MODELm_SP:SEiGOêTO MEETn@CƓT,SkSTOVEfG_ATNESSj@ŋM@TlPATT,NhRITU%gFL(gVASTNESS OR WAST*G
tC:ST.CYjMEASU_hET,NITYiUNITYfDIM*ƔM@TmŠMƱHmGU&DEDNESSkATH,ê*mMASS*GhACCUMULŧmEMBELLƔM@TnDOUBTfWATCH
fS*K*Gh*N,fDEP&TU_i&K@*GiIMM*GhEX|US]:kSEV,.CEiTOPPAGEiH&DNESSiCOMP+]:jLOSU_hFAILU_hAGďVŧlCOMPLI.CE
k: Ɖ V,GEmDIFFICUL]ESmLABOUR*GjFOST,*G;10xCƓTêRO[UNIT ƊdïcĂfÝdđeħcīfE(fĸpT@S ƊdïcĂfÝdđeħcīfE(fĸ
zdũOŊŌT%LYÕ :EdïcĂfÝdđzcT%LYÕ :EdFđ;136pMAƉMA]C% BOL[ÒAbBbCbDbEbFbGbHbIbJbKbLbMbNbObPbQbRbSbTbUbVbW
bXbYbZjŝAbBbCbDbEbFbGbHbIbJbKbLbMbNbObPbQbRbSbTbUbVbWbXbYbZmIT%ŌÒAbBbCbDbEbFbGbHbIbJbKbLbMbNbObPbQbR
bSbTbUbVbWbXbYbZjŝAbBbCbDbEbFbG;2bIbJbKbLbMbNbObPbQbRbSbTbUbVbWbXbYbZoBOL[IT%ŌÒAbBbCbDbEbFbGbHbIbJbK
bLbMbNbObPbQbRbSbTbUbVbWbXbYbZjŝAbBbCbDbEbFbGbHbIbJbKbLbMbNbObPbQbRbSbTbUbVbWbXbYbZtSńÒA;2bCbD;3bG
;3bJbK;3bNbObPbQ;2bSbTbUbVbWbXbYbZjŝAbBbCbD;2bF;2bHbIbJbKbLbMbN;2bPbQbRbSbTbUbVbWbXbYbZoBOLD<ńÒAbBbC
bDbEbFbGbHbIbJbKbLbMbNbObPbQbRbSbTbUbVbWbXbYbZjŝAbBbCbDbEbFbGbHbIbJbKbLbMbNbObPbQbRbSbTbUbVbWbXbYbZ
tFRAKTUR ÒAbB;2bDbEbFbG;3bJbKbLbMbNbObPbQ;2bSbTbUbVbWbXbY;2jŝAbBbCbDbEbFbGbHbIbJbKbLbMbNbObPbQbRbSbT
bUbVbWbXbYbZpÁ-STRUCK ÒAbB;2bDbEbFbG;2bIbJbKbLbM;2bO;4bSbTbUbVbWbXbY;2jŝAbBbCbDbEbFbGbHbIbJbKbLbMbN
bObPbQbRbSbTbUbVbWbXbYbZvBOL[FRAKTUR ÒAbBbCbDbEbFbGbHbIbJbKbLbMbNbObPbQbRbSbTbUbVbWbXbYbZjŝAbBbCbDbE
bFbGbHbIbJbKbLbMbNbObPbQbRbSbTbUbVbWbXbYbZuSŸ ÒAbBbCbDbEbFbGbHbIbJbKbLbMbNbObPbQbRbSbTbUbVbWbXbYbZ
jŝAbBbCbDbEbFbGbHbIbJbKbLbMbNbObPbQbRbSbTbUbVbWbXbYbZhBOL[ÒAbBbCbDbEbFbGbHbIbJbKbLbMbNbObPbQbRbSbTbU
bVbWbXbYbZjŝAbBbCbDbEbFbGbHbIbJbKbLbMbNbObPbQbRbSbTbUbVbWbXbYbZmIT%ŌÒAbBbCbDbEbFbGbHbIbJbKbLbMbNbObP
bQbRbSbTbUbVbWbXbYbZjŝAbBbCbDbEbFbGbHbIbJbKbLbMbNbObPbQbRbSbTbUbVbWbXbYbZoBOL[IT%ŌÒAbBbCbDbEbFbGbHbI
bJbKbLbMbNbObPbQbRbSbTbUbVbWbXbYbZjŝAbBbCbDbEbFbGbHbIbJbKbLbMbNbObPbQbRbSbTbUbVbWbXbYbZzfM:OSPACE ÒA
bBbCbDbEbFbGbHbIbJbKbLbMbNbObPbQbRbSbTbUbVbWbXbYbZjŝAbBbCbDbEbFbGbHbIbJbKbLbMbNbObPbQbRbSbTbUbVbWbX
bYbZrIT%IC<áß+SS IbJ;3wBOL[Ò%P|fBETAeGƮfDELTAfEĲhZETAeETAdƉTAfIOTAeKAPPAfƚDAfMUcNUcXIcOMICR:hPIcRHO
dƉTAÆmSIGMAfTAUdUĲhPHIdCHIdPSIdſnNABLAfŝ%P|fBETAeGƮfDELTAfEĲhZETAeETAdƉTAfIOTAeKAPPAfƚDAfMUcNUcXI
cOMICR:hPIcRHOdF*%<IGMAlSIGMAfTAUdUĲhPHIdCHIdPSIdſlP&]% DIFF,@]%uEĲÆoƉTAÆmKAPPAÆmPHIÆkRHOÆkPIÆ
oIT%ŌÒ%P|fBETAeGƮfDELTAfEĲhZETAeETAdƉTAfIOTAeKAPPAfƚDAfMUcNUcXIcOMICR:hPIcRHOdƉTAÆmSIGMAfTAUdUĲhPHI
dCHIdPSIdſnNABLAfŝ%P|fBETAeGƮfDELTAfEĲhZETAeETAdƉTAfIOTAeKAPPAfƚDAfMUcNUcXIcOMICR:hPIcRHOdF*%<IGMA
lSIGMAfTAUdUĲhPHIdCHIdPSIdſlP&]% DIFF,@]%uEĲÆoƉTAÆmKAPPAÆmPHIÆkRHOÆkPIÆqBOL[IT%ŌÒ%P|fBETAeGƮfDELTA
fEĲhZETAeETAdƉTAfIOTAeKAPPAfƚDAfMUcNUcXIcOMICR:hPIcRHOdƉTAÆmSIGMAfTAUdUĲhPHIdCHIdPSIdſnNABLAfŝ%P|
fBETAeGƮfDELTAfEĲhZETAeETAdƉTAfIOTAeKAPPAfƚDAfMUcNUcXIcOMICR:hPIcRHOdF*%<IGMAlSIGMAfTAUdUĲhPHIdCHI
dPSIdſlP&]% DIFF,@]%uEĲÆoƉTAÆmKAPPAÆmPHIÆkRHOÆkPIÆvSŸ BOL[Ò%P|fBETAeGƮfDELTAfEĲhZETAeETAdƉTAfIOTA
eKAPPAfƚDAfMUcNUcXIcOMICR:hPIcRHOdƉTAÆmSIGMAfTAUdUĲhPHIdCHIdPSIdſnNABLAfŝ%P|fBETAeGƮfDELTAfEĲhZETA
eETAdƉTAfIOTAeKAPPAfƚDAfMUcNUcXIcOMICR:hPIcRHOdF*%<IGMAlSIGMAfTAUdUĲhPHIdCHIdPSIdſlP&]% DIFF,@]%uEĲÆ
oƉTAÆmKAPPAÆmPHIÆkRHOÆkPIÆjIT%ŌÒ%P|fBETAeGƮfDELTAfEĲhZETAeETAdƉTAfIOTAeKAPPAfƚDAfMUcNUcXIcOMICR:hPI
cRHOdƉTAÆmSIGMAfTAUdUĲhPHIdCHIdPSIdſnNABLAfŝ%P|fBETAeGƮfDELTAfEĲhZETAeETAdƉTAfIOTAeKAPPAfƚDAfMUcNU
cXIcOMICR:hPIcRHOdF*%<IGMAlSIGMAfTAUdUĲhPHIdCHIdPSIdſlP&]% DIFF,@]%uEĲÆoƉTAÆmKAPPAÆmPHIÆkRHOÆkPIÆ
zhBOL[ÒDIGƮpŝDIGƮ;3nÖe:EdïcĂfÝdđeħcīfE(fĸpÁ-STRUCK Öe:EdïcĂfÝdđeħcīfE(fĸySŸ Öe:EdïcĂfÝdđeħcīfE(fĸ
kBOL[Öe:EdïcĂfÝdđeħcīfE(fĸzbM:OSPACE Öe:EdïcĂfÝdđeħcīfE(fĸziSIGNWRITêH.D-FIST ĔkË ĔlUP ĔjOV% Ĕ
kH*GE Ĕl.G+ ĔlFISTƙB@TpËƙB@TrFIST ĉ UND,ƙB@TwĔ ƷKNUCK+oCUPPEDgH*GEDa LOWvËƙH*GEsFISTƙMIDD+rËƙMIDD+
tFISTƙÌB@TeƷKNUCK+SpH*GEDnUP ÌH*GEDqH*GE[ÌUPqÌC:JO*EDaƙB@TkÌB@TlCUPPEDgH*GEDpROSSEDzaËƙÌòED
zcFIST ÌB@TČ ĔwĔ B@TČ MIDD+qÌĉxËƙÌĉzaFISTƙMIDD+<TRA( ĉ B@TtB@T ĉ<TRA(tĉ B@TkH*GED<P_A[ĉ<ũ
zgUP ÌH*GE[ĉ<ũeC:JO*EDzhH*GE[ÌUP ĉ<ũzcÌUP<P_A[ĉ ƂW&Dxĉ CUPPEDfIRC+DhàEDf*GEDzaĉ BETWE@ƙMIDD+<TRA(
zkĔ ÌC:JO*E[ĉ<ũa C:JO*EDjB@TznÌĉ àE[Ĕ UPzdĔ ĉ àE[ÌUPwÌC:JO*E[H*GE[ĉ<ũzbROSSE[ĉ<ũr:JO*E[ĉ ƂW&D
nCUPPE[ĉ ƂW&DzsÌĉ CUPPE[Ĕ UPzdĔ ĉ CUPPE[ÌUPzdÌĉ Ë[Ĕ UPcH*GEDziĔ ĉ .G+[Ʊ ÌUPn* ÌUPtË[ÌUP
xÌĉ C:JO*E[H*GEDq.G+[ƱezaÌĉ .G+[ƱƙUPcòEDrĔ UPzdĔ ĉ àE[ÌH*GEDzlLAT Ý F*G,Sa B@TeH*GEDgC:JO*EDa<PLIT
ziCLAW Ý F*G,S C:JO*EDzcFIST Ý F*G,S C:JO*E[B@TzhH*GE Ý F*G,S C:JO*EDzdFLAT ŮDtHEEL ŮDyŮ[Ý B@T
zeHEEL Ů[Ý B@TzjŮ[B@TyHEEL Ů[B@TzeŮ[ĉ ƂW&DznCUP ŮDa OP@zdH*GE Ů[OP@zfOV% ŮDyFLAT Ů[H*GEDa ĉ<ũkNO ĉ
zla BETWE@ P%M FAC*GSuHEELeĉ<ũkHEEL ĉ<ũpĉ B@TeƂW&DnSPLITƙĉ<ũqŕa ĉ<ũa B@TwĴrCLAWa ĉ<ũkNO ĉiĉ ƂW&D
sà CURLICUEjeCUP OP@fa şĉ<ũpĉ<ũkşNO ĉnNO ĉişĉ ƂW&Dsĉ ƂW&DpRLICUE OP@fhIRC+gOV%a ĉ<ũkNO ĉiĉ ƂW&D
sH*GE OP@a ĉ ƂW&Dtaƀfşĉ<ũpĉ<ũkşNO ĉnNO ĉiĉ<ũƩUCHêĔtBETWE@ ÌR*Gzg.G+fFISTƙÌR*GwËƙÌR*GyH*GEƙÌR*G
x.G+ƙÌR*GxH*GE ĴmFISTƙÌRêB@TeC:JO*EDzhH*GEƙÌRêC:JO*EDziFIST Ĵ Ùa RIPP+<TRA(iƽDnOTH,S ËDtUP
jĉ UND, Ĵ UPzbË Ĵ UPqOV% Ĵ UPo.G+ Ĵ UPpFIST Ĵ ƷKNUCK+oB@TeTOUŨS ĉmHUMBrH*GE Ĵ ĉsFIST ĴƙĉxH*GE Ĵƙĉ
y.G+ Ĵƙĉƙĉ ƱezlFIST Ĵ ĔrË Ĵ ĔtH*GE Ĵ Ĕs.G+ Ĵ ĔsFISTƙÌĴyËƙÌĴzbH*GEƙÌĴtR*Gk.G+ƙÌĴzaFISTƙÌò ĴzfËƙÌò Ĵ
zhFIST RêÙoH*GE RêÙƙĉ à MIDD+zo.G+ RêÙ ÌĉƙòzpFIST RêUPcƷKNUCK+oĴqË RêĴsOV% RêĴq.G+ RêĴrFIST RêMIDD+
a C:JO*EDjƷKNUCK+SwĔfĉpà RêĉpFISTƙRêĴwËƙRêĴxURLICUEƙRêĴ :zeàƙRêĴ Ʊd*cUND,zdCUPƙRêĴvH*GEƙRêĴ
x.G+ƙRêĴ ƱexFIST ÌÙqH*GE MIDD+mFIST ÌUPoË ÌUPqFIST ÌƷKNUCK+oUP ĉ<ũzaà ÌĉrFIST Ìĉ ĴmĴgRêĴxË ÌRêĴ
yURLICUE ÌRêĴ :zdP ÌRêĴwH*GE ÌRêĴy.G+ ÌRêĴ Ʊd*dyË ÌRêĴ B@TzeLAW ÌRêĴ C:JO*EDa<ũznà ÌRêĴ C:JO*E[Ʊd*
dzh*GEƙH*GEDsFISTƙĉ<ũvH*GEƙĉ<ũwFISTƙĉ<ũ ĉ ĩiC:JO*EDjB@TkĔ B@TkBOTH B@TjĔ H*GEqƂW&[Ĕ<TRA(iB@Tsà
eCURLICUEfVE ĉ *SũzkCLAWƙĉ ƽ ĉ *SũzkFISTƙĉ ƽ ĉ UND,qIRC+xCUPƙĉa OP@uH*GEƙĉ OP@eŋgaƀx.G+ƙĉ Ʊd*
drFIST ĉa HEELeSũ ĩiC:JO*EDjB@TjƂW&DhBETWE@ƙMIDD+mÌR*GlRêĴtUND, ï F*G,SrOV, ï F*G,SqUND, TĂ F*G,S
nÝ F*G,SsOV, Ý ƷKNUCK+Szha HEELoTOUCHŖgMUL]P+iBETWE@nďSPŖgMUL]P+iBETWE@nSTRIKEŖgMUL]P+iBETWE@oBRUSHŖ
gMUL]P+iBETWE@nRUBŖgMUL]P+iBETWE@lSURĆÆShBETWE@oQUEEZE ŋŖmSM%LŖmŋ MUL]P+oŝMUL]P+nEQU@]%sFLICK ŋŖ
mSM%LŖmŋ MUL]P+oŝMUL]P+nEQU@]%qSQUEEZE FLICK Ļ*Gzaƭ-H*GE UP Ù ŋfSM%LkSEQU@]%nÙ<EQU@]%pUP Ù ĻêŋfSM%L
zaSũƩ<ũ<CISSORSzcų F*G, C:TACTyķ F*G, C:TACTzaųŖ<TRA(ƀfĤgŋaSTqWRIST F+XrÁ<TRA(iWRIST F+XkĻ*G
a WRIST F+Xzeòfő<TRA( ƭrWRIST F+XkĻ*Ga WRIST F+XzeB@DƀfĤgŋkŻƀfĤgŋfROTŧoHECKƀfĤgŋlBOXƀfĤgŋjZIGZAGƀfĤ
gŋmPEAKSƀfĤgŋzfTRAVEL-ų ROTŧ-ųŖgÁgĻ*GvķŖgÁgĻ*GzgS|K*Gh&M<PIR%ŖgÁgőzjƭ-ĩ AWAYƀfĤgŋaSTmTO^ƀfĤgŋaST
pBETWE@ AWAYƀfĤgŋaSTmTO^ƀfĤgŋaSTzhķŖ<TRA(ƀfĤgŋaSTqWRIST F+XrÁ<TRA(iWRIST F+XkĻ*Ga WRIST F+Xzeò
fő<TRA( ƭrWRIST F+XkĻêƭiWRIST F+XzeB@DeŻƀfĤgŋlHECKfBOXƀfĤgŋjZIGZAGƀfĤgŋmPEAKSƀfĤgŋzgTRAVEL-ķ ROTŧ-ķŖ
gÁgĻ*GwųŖgÁgĻ*GzfS|K*Gzaƭ-ų ƽņƀfĤgŋaSTpH%F-ËƀfĤgŋaSTtTĂ-QU&T, ËƀfĤziHUMPƀfĤgŋkLOOPƀfĤgŋfŝÁrWAVE ƽ Áƀ
fĤgŋmőƀfĤgŋxƽ TH@<TRA(o[òƀfĤznROTŧ-ųŖgÁgĻEzdƭ-ų<|K*Ghƽ ūFR:T W%LyHUMP ūFR:T W%LxLOOP ūFR:T W%L
xWAVE ūFR:T W%LzrROTŧ-ųŖ ūFR:T W%LzaĭūFR:T W%LzaĻêūFR:T W%Lzyƭ-ų ƽ ūŨSTtHUMP ūŨSTsLOOP ūŨST
sWAVE ūŨSTzmROTŧ-ųŖ ūŨSTuĭūŨSTuĻêūŨSTztƭ-ų WAVE ĩ PATHƀfĤgŋzjķ ƽ ūCEIL*GƀfŋzcHUMP ūCEIL*G<áÁmŋ Ámŝő
mŋ őziLOOP ūCEIL*GƀŖmŋŖmŝÁmŋ ÁziWAVE ūCEIL*GƀfŋzvROTŧ-ķŖ ūCEIL*GwĭūCEIL*GwĻêūCEIL*Gzwƭ-ķ ƽ ūFLOORƀfŋ
zaHUMP ūFLOOR<áÁmŋ Ámő<áőmŋ őznLOOP ūFLOORƀŖmŋŖmŝÁmŋ ÁzgWAVE ūFLOORƀfŋztROTŧ-ķŖ ūFLOORuĭūFLOOR
uĻêūFLOORzuƭ-ķ ƽƀfĤgŋaSThCOMB*EDoHUMPƀkLOOPƀkWAVE<NAKEeM%LfŋzfROTŧ-ķŖgÁgĻ*Gzgƭ-ķ<|KêP&%+Lzcų &M ËƀŖ
mĤŖnŝÁmĤ Ázjķ &M Ë ūW%LƀŖmĤŖnŋŖmŝÁmĤ Ánŋ Ázwų WRIST Ë FR:TŖgÁzkķ WRIST Ë ūW%LŖgÁzsų F*G, ËSŖgÁ
zgķ F*G, ËS ūW%LŖgÁzzeDYNAMIC/ĦƀfŋpFASTeSLOWeT@SEf_LAXEDhSIMULT.EOUSa Ļ*GyEV,Y OTH, ]MEqďDU%pĦa RIM
dƭ-ų<TRA(i]LToķ<TRA(tų ƽpķ ƽr ËuĆ DI_C]: POSI]: NOSE ƂW&[]LT*GpUP OR Ùa ]LT*GzwEYEBROWS<TRA( UPcƹhÙ
wD_AMY EYEBROWS ƹ ÙmÙ ƹmUP ƹkƹ UPzbFO_HEA[ƹhC:TACThWR*K+DrEYES OP@eSQUEEZEDiCLOSEDi BL*KŖgMUL]P+
pS ęOP@jWũ OP@jęCLOSEDlWID@êƭt W*KfLĽES UPcÙeFLUTT,*GrGAZE-ų<TRA(a ÁgĻ*Gzfķ<TRA(a ÁgĻ*Gzgų ƽDqķ ƽD
rų CIRCL*GzbŨEKS PUFFEDgƹhSUCKEDnT@SE ŨEKS HIGHeMIDD+gLOWqE&SeNOSE ƹhC:TACThWR*K+ShIGG+SmAIR BLOWêƱ
lSUCKê*kBLOW<áROTŧSuSUCK<áROTŧSyB_ATH *H%EgEXH%EnMƱH ŠƹhƂW&DhC:TACToSMI+a WR*K+DiOP@kFROWNa WR*K+D
iOP@kşËgƂW&DhWR*K+DiOV%a WR*K+DiYAWNj_CT.G+a WR*K+DiYAWNtKISSa ƂW&DhWR*K+DnT@SEa ƂW&DhSUCKED
sLIPS P_SSE[TOGƤ,s öOV, UPP,qċOV, LOW,uMƱH ŻShWR*K+SŖgÁvT:GUE<]CKêƱ F&qLICKêLIPSm]P BETWE@ LIPS
mTOUCHê*Sũ MƱHza*Sũ MƱH _LAXEDuMOVES AGA*ST ŨEKtŕ<]CKêƱm*Sũ MƱHzaEƤa ƭi: T:GUEa ƭpLIPSa ƭqBITE LIPS
pƭ-ų JAWnķ JAWxNECKe|IReEXCITEM@TkSHOULD, HIP<P*EfPOSI]:Swų<HOULD, HIP MOVEzcķ<HOULD, HIP MOVE
zdSHOULD, ]LTêFROM WAISTzcTORSO-ų<TRA(<T_TCHqƽ[B@Dvķ TWIST*GzaċBODY ]LTêFROM HIP JO*TSzjLIMB COMB*ŧ
l+NGTH-1b2b3b4b5b6b7nF*G,gLOCŧ-ų<PACEpķ<PACEr HE(gWIDTHfDEPTHfHEA[NECKjTORSOfLIMBS DIGITSvĨfĄjSEMIƦ
jƦfú;16lFILL ŀ-2b3b4b5b6;2pROTŧ ŀ-2b3b4b5b6b7b8b9b10b1b2b3b4b5b6;1105zhţF@G DIŊ#TRILLxýD<ńGzfĝõG
ze?ý[KxĝL#BELTzh?+ZH#ñyõY#BELTsý[@GmõR#ŭ+GÔñzp#àÔñzsÂ_TROF+X CLICK#ñzr?ESH#ÁģaÔCURLzdõT#CURL
zgÂĒĹ#CURLzgST_TŨ[C#CURLuáÒõKze?L#FƔàpDEZH DIŊĬzfL#BELTÔP%AT% àzd@GĬvõRĬzbR#FƔàÔP%AT% àzhTESH DIŊĬ
zfEZHĬvDEZH DIŊ#ñzhIĞÔñzhO#ñvTESH DIŊ#ñzhC#ñvS#CURL;226zfĳGLAGOLI]CżAZUdBUKYeVEDEeGLAGOLIhDOBRO
fYESTUfZHđTE;2gEMLJAgIZHEdNI]% IZHElbDJ,VIgKAKOeLJUDIJEhMYSLITEhNĽIf:UdPOKOJIgRITSIfSLOVOfTVRIDOgUKU
dFRITUfH,U;3eSHTAeTSIdCHRIVIgS|dY,UbIdA];2dUcŝYUS;2jYOcIOTATED<áYUSrBIG YUShIOTAƕBIG YUSpFITA
;214zhNYIAK@G PUACHUE HM:GżMAcTSAdNTAdTAc|cNAcXAcNKAdCAcLAcSAcZAcNCAcTSAeKAcDAcNYAcRAdVAcNTXAeTXAdFA
cRAcQAcYAcNQAdPAcXYAdNPAdDLAdNPLAe|HdMLAdPLAdGAcRRAdAaAcIbUbOaOcEaEcW;4iƥ-BbMbJbVbSbGbDgðƂ P,S:gTH*G
fLOCŧi.IM%g*V,TEBRATEqXW XWjYLLAB+ +NGTH@,;3tÖe:EdïcĂfÝdđeħcīfE(fĸ;5kLOGOďM NYAJnË[CA;321ziTOTOżPA
cBAcTAcDAcKAcGAcMAcNAbGAdSAcC|dYAcWAcJAc|cRAcLAcIbB_ATHY IjIUcB_ATHY IUkUbEbB_ATHY EjEOcB_ATHY EOkO
bAEcB_ATHY AEkAiðRISêƥ;18vW.CHOżAAbbBAcCAcDAcGAcYAcP|dLAcNAcPAcTAb|dFAcSAb|dJAcZAcWAcVAcKAcObAUcRA
cMAcK|d|cEbIbƻdUbLL|eTSAcRAd:GdA.GdNGd*Gd:c@cA.dNYAdU@dYIHkƥ TUPaNIfKOIaNIkÖe:EdïcĂfÝdđeħcīfE(fĸ
;6kNGUN~;1249qƤIOPIC<YLLAB+ HHYAbUbIbAAcEEbbO;2eGURAGE HHWAlHHWIbEEb;2eGURAGE MWIbEE;2eQWIbEEbdBWI
bEEeKWIbEEbdGWIbEEbdFWIbEEePWIbEE;2zeM@DE KIKAKUI<YLLAB+ M001 KIe2 KAe3 KUf65 KEEg95 KEf76 KOOg48 KO
g179 KUAh004 WIe5 WAe6 WUg126 WEEg18 WEe4 WOOh045 WOg194 WUIg43 WEIh061 WVIg49 WVAh139 WVEh007 M*
f8 M.f9 MUNg59 M@g94 M:h154 MU.h89 MU@i010 BIe1 BAe2 BUg150 BEEh097 BEg103 BOOg38 BOg013 Id4 Ad5 U
f163 EEf00 Ee65 OOf47 Oe37 EIe1 *e5 *f95 .f78 @g019<If20<Ae1<Ug162<EEg16<Ef36<OOh079<Og196<IAh025 LI
e6 LAe7 LUf84 +Eg73 +f54 LOOh153 LOf10 ŭ+l016 DIe7 DAe8 DUf89 DEEh180 DOOf1 DOg022 ]e3 TAe4 TU
f91 TEEg55 TEg104ƩOh069Ʃf28 JIe9 JAf30 JUg157 JEEg13 JEf60 JOOh063 JOg175 ŭJOl031 YIe2 YAe3 YU
g109 YEEh080 YEg141 YOOg21 YOg034 FIe5 FAe6 FUf78 FEEf5 FEg133 FOOh088 FOg197 FUAg01 F.h037 N*f8 N.
f9 NUNh117 N@g69 N:g76 HIg041 |g186 HUg040 HEEg96 HEf42 HOOh140 HOg083 HEEIi128 HOOUi053 H*h130 H.
h087 HUNg52 H@h193 H:h046 HU.h90 NGGIh43 NGGAh82 NGGUi115 NGGEEi46 NGGEh56 NGGOOi20 NGGOh59 NGGAA
i27 NGGUAj086 ŭNGGEn106 ŭNGGOOn83 ŭNGGOm55 GIf11 GAf68 GUf90 GEEg66 GUEIg7 GU.h84 NG@i057 NG:
i177 NGU.j068 PIf99 PAf50 PUf81 PEEg51 PEg102 POOh066 POg145 MBIh062 MBAh122 MBUh047 MBEEi188 MBEE
i072 MBEh172 MBOOg4 MBOg87 MBUUh61 ŭMBEl05 ŭMBOOm42 ŭMBOl32 KPIh092 KPAg74 KPUg44 KPEEi108 KPE
g12 KPOOh58 KPOg24 GBIh056 GBAh148 GBUh093 GBEEi107 GBEh071 GBOOg0 GBOh171 RAf23 NDIf9 NDAf5 NDU
g91 NDEEh19 NDEh067 NDOOg4 NDOh152 NJAg92 NJUg49 NJEEh34 NJOOh82 VIe5 VAf51 VUf73 VEEh085 VEg144 VOO
h077 VOg164 NY*i058 NY.i170 NYUNi098 NY@h60 NY:;3sƊdïcĂfÝdđeħcīfE(fĸkĳėTE@SdNSeHUND_DSiÍSi@ƧS
nHUND_[ÍSrMILLI:S;42zoADƚ $%IFeDA%IfLAAMeMIIMeBAcS*NYIIYHEkPEcBHEdRAcEbFAcIbObD|dYHEdWAWdNUNdKAFdYA
cUbJIIMeCHId|cQAAFeGAcNYAdTUcN|dVAcK|dGBEdZ%dKPOdS|s?%IFeDA%IfLAAMeMIIMeBAcS*NYIIYHEkPEcBHEdRAcEbFA
cIbObD|dYHEdWAWdNUNdKAFdYAcUbJIIMeCHId|cQAAFeGAcNYAdTUcN|dVAcK|dGBEdZ%dKPOdS|q%IF +NGTH@,
pVOWEL +NGTH@,qGEM*AĈp|MZAfC:S:.T ŀsGEM*ATE C:S:.T ŀzcNUKTAeAS%IZAĈ;5rÖe:EdïcĂfÝdđeħcīfE(fĸ;5k*I]% Ň
qƇ;786zc*DIC<IYAQ ė:EdïcĂfÝdđeħcīfE(fĸeT@cƣfŰgƂTYeIFTYfħTYeīTYhE(YgĸTYg:EÑlïÑkĂÑnÝÑlđÑmħÑkīÑnE(ÑnĸÑ
m:EƧmïƧlĂƧoÝƧmđƧnħƧlīƧoE(ƧoĸƧnT@ƧlƣƧoŰƧpƂTYƧnIFTYƧoħTYƧnīTYƧqE(YƧpĸTYƧpLAKHa.nLAKHÕjėK&ORa.
hP_FIXE[:EdïcĂfÝdđeħcīfE(fĸuPLACEHOLD,lƗņhH%FiTĂņSxRUPEEÕkėĻE :Edïc@ƧzeĻE LAKHÕ;77zgOTTOM.<IYAQ ė:E
dïcĂfÝdđeħcīfE(fĸeT@cƣfŰgƂTYeIFTYfħTYeīTYhE(YgĸTYg:EÑlïÑkĂÑnÝÑlđÑmħÑkīÑnE(ÑnĸÑm:EƧmïƧlĂƧoÝƧmđƧnħƧlīƧ
oE(ƧoĸƧnT@ƧlƣƧoŰƧpƂTYƧnIFTYƧoħTYƧnīTYƧqE(YƧpĸTYƧwM&RAT.iĻE ėïcĂfÝdđeħcīfE(fĸeT@dÝÑmħÑlïƧl@ƧzeƗ H%F
eħTH;195zh&ABŌMAƉMA]C% %EFeBEHdJEEMeD%;2dWAWdZA*e|HdTAHdYEHdKAFdƚd÷eNO:eSE@eA*dFEHdSADdQAFd_Hdǁ@fTEH
cHEHeK|HeTH%eDADdZAHdG|*fß+SS BEHdNO:eFEHdQAF;2l*I]% BEHdJEEM;2eHEH;3cAH;2dYEHdKAFdƚd÷eNO:eSE@eA*
dFEHdSADdQAF;2dǁ@fTEHcHEHeK|H;2eDAD;2dG|*;7nTAI+[JEEM;5e|H;2dYEH;2dƚ;2dNO:eSE@eA*;2dSADdQAF;2dǁ@
;3fK|H;2eDAD;2dG|*;2fß+SS NO:;2eQAF;2sST_TŨ[BEHdJEEM;2eHEH;3cAHdTAHdYEHdKAF;2d÷eNO:eSE@eA*dFEHdSAD
dQAF;2dǁ@fTEHcHEHeK|H;2eDADdZAHdG|*fß+SS BEH;2dFEH;2vLOOPE[%EFeBEHdJEEMeD%dHEHdWAWdZA*e|HdTAHdYEH
;2dƚd÷eNO:eSE@eA*dFEHdSADdQAFd_Hdǁ@fTEHcHEHeK|HeTH%eDADdZAHdG|*;6mÁ-STRUCK BEHdJEEMeD%;2dWAWdZA*e|H
dTAHdYEH;2dƚd÷eNO:eSE@eA*dFEHdSADdQAFd_Hdǁ@fTEHcHEHeK|HeTH%eDADdZAHdG|*;53tOP,ATOR ÷#|H#TATWEEL
zb|H#D%;271zqMAHJ:G ]+ EAST W*DjSƱH W*DkWEST W*DjNORTH W*Dk_[DRAG:kG_@ DRAG:mŘDRAG:m:EÿơSrïÿơSqĂÿơS
tÝÿơSrđÿơSsħÿơSqīÿơStE(ÿơStĸÿơSs:EÿBAMBOOSoïÿBAMBOOSnĂÿBAMBOOSqÝÿBAMBOOSođÿBAMBOOSpħÿBAMBOOS
nīÿBAMBOOSqE(ÿBAMBOOSqĸÿBAMBOOSp:EÿËSoïÿËSnĂÿËSqÝÿËSođÿËSpħÿËSnīÿËSqE(ÿËSqĸÿËSpPLUMeORCHIDgBAMBOO
gCHRYS.ƉMUMnSPR*GfUMM,gAUTUMNgW*T,gJOK,fBƴ;5rDOM*O ]+ Ê Bƴf-00-00b1b2b3b4b5b6e1-00b1b2b3b4b5b6e2-00
b1b2b3b4b5b6e3-00b1b2b3b4b5b6e4-00b1b2b3b4b5b6e5-00b1b2b3b4b5b6e6-00b1b2b3b4b5b6qØ Bƴf-00-00b1b2b3b4
b5b6e1-00b1b2b3b4b5b6e2-00b1b2b3b4b5b6e3-00b1b2b3b4b5b6e4-00b1b2b3b4b5b6e5-00b1b2b3b4b5b6e6-00b1b2b3
b4b5b6;13zbPLAYêC&[BƴeACEƪnïƪmĂƪpÝƪnđƪoħƪmīƪpE(ƪpĸƪoT@ƪnJƴƪoKN(ƪqQUE@ƪpKêOF<PADES;3oACEÿƟSnïÿƟSmĂÿƟS
pÝÿƟSnđÿƟSoħÿƟSmīÿƟSpE(ÿƟSpĸÿƟSoT@ÿƟSnJƴÿƟSoKN(ÿƟSqQUE@ÿƟSpKêOF ƟSo_[JOK,;2jACEÿĪSpïÿĪSoĂÿĪSrÝÿĪS
pđÿĪSqħÿĪSoīÿĪSrE(ÿĪSrĸÿĪSqT@ÿĪSpJƴÿĪSqKN(ÿĪSsQUE@ÿĪSrKêOF ĪSqŴJOK,;2lACEÿCLUBSmïÿCLUBSlĂÿCLUBS
oÝÿCLUBSmđÿCLUBSnħÿCLUBSlīÿCLUBSoE(ÿCLUBSoĸÿCLUBSnT@ÿCLUBSmJƴÿCLUBSnKN(ÿCLUBSpQUE@ÿCLUBSoKêOF CLUBS
nŘJOK,lFOOLeTRUMP-1b2b3b4b5b6b7b8b9b10b1b2b3b4b5b6b7b8b9c20b1;11vÖ ĄjĨk:E Ĩjï ĨiĂ ĨlÝ Ĩjđ Ĩkħ Ĩiī Ĩ
lE( Ĩlĸ ĨoNGBAT ËD<Ÿ ÖzeNEGA]VE ËD<Ÿ ÖzvË[Z,O#SLĽp.]ĺ/tDOLL&~#OV,LAI[BƴSLĽzsP&@ƉSIZE[ƶ$AbBbCbDbEbFbG
bHbIbJbKbLbMbNbObPbQbRbSbTbUbVbWbXbYbZzlčE[ƶ$SzwË[IT%Ōƶ$CbRzeCDcWZjOPYāÆpŬ[ƶ$AbBbCbDbEbFbGbHbIbJbKbL
bMbNbObPbQbRbSbTbUbVbWbXbYbZwHVcMVcSDbScPPVdWCkNEGA]VE Ë[ƶ$AbBbCbDbEbFbGbHbIbJbKbLbMbNbObPbQbRbSbTbU
bVbWbXbYbZzoƷMC~gD~gR~oË[CCb#OV,LAI[BƴSLĽzaHUM. FIGU_uNEGA]VEí[ƶ$AbBbCbDbEbFbGbHbIbJbKbLbMbNbObPbQbR
bSbTbUbVbWbXbYbZzoòE[NEGA]VEí[ƶ$PzwNEGA]VEí[ICcPAcSAcABcWCtŬ DJd[CLbOOLeF_EeIDcNEWcGcOKcSOSdUP#ŇyVS
cTĂ DhSEC:D<C_@nï KfÝ KgE( KhFđ PO*T :EoSī PO*T :EpTƣ-ï PO*T ïuħTY Ph:EűTƣ PuţDuHCbDRcI-_SgLOSS+SS
iSHVdUHDdVODlMASK WORKÆ;57q_GI:% *DICATOR<YMBO!AbBbCbDbEbFbGbHbIbJbKbLbMbNbObPbQbRbSbTbUbVbWbXbYbZ
zjŬ HIRAG.A HOKAo[KATAK.A KOKOeSA;14lCJK UNIFIE[ũOŊ-624Be5B57d3CCzbKATAK.A DElCJK UNIFIE[ũOŊ-4E8C
e591Ae89E3e5929e4EA4e6620e7121e6599e524DdF8Cd18De65B0e521De7D42d51Fe8CA9e58F0d439e6F14d295d355e4E00
b9e904Ae5DE6e4E2De53F3e6307e8D70e6253e7981dA7Ae5408e6E80d709b8e7533e5272d5B6e914D
;5zjčE[CJK UNIFIE[ũOŊ-672Ce4E09c8Ce5B89e70B9e6253e76D7e52DDe6557;8zzbË[ũOŊ ADV.TAGEiCCEPT
;15yRƓDEDÆ Ƃ FUcLUcSHOUeXIcSHU.GXIiCAI;155wCYCL:EhFOGGYfŠUMB_LLApN(#ST&SqSUNRISEČ MƓTA*S
phCITYSCAPE AT DUSKrSUNSETČ BUILD*GSvRA*BOWhBRIDGE AT N(pWAT, WAVEkVOLC.OhMILKY WAY
jE&TH GLOBE EUROPE-AFRICAnAM,ICAShSIA-AUSTR%IAzbGLOBE#M,IDI.SuNEW MO:ÆpWAXêC_SC@T MO:ÆzcFIRSTņ MO:Æ
zaWAXêGIBBOUS MO:ÆzbFULL MO:ÆqW.êGIBBOUS MO:ÆzbLASTņ MO:ÆyW.êC_SC@T MO:ÆzcC_SC@T MO:nNEW MO:#Ć
sFIRSTņ MO:#ĆzdLASTņ MO:#ĆzcFULL MO:#ĆtSUN#ĆnGLOW*G<T&mSHOOT*G<T&nTH,MOMET,lŴDROP+TnÇ<UNa#ŝCLOUD
qBEH*[CLOUDa#RA*zhCLOUD#RA*eSNOWeL(N*GjTORNADOsFOGdW*[BLOWêĆrHOT DOGhTACOeBURRITOhŨSTNUTiSEEDL*G
iEV,G_@ T_EoDECIDUOUS T_EoP%M T_EjCACTUSgHOT PEPP,kTULIPfCH,RY BLOSSOMoROSEeHIBISCUSiSUNFLOW,
jBLOSSOMhE&ÿMAIZEfRICElH,BeÝ +AF CLOV,qMAP+ +AFkF%+N +AFl+AF FLUTT,ê* W*DxMUSHROOMiTOMATOgAUB,G*E
jďPESgMEL:fWAT,MEL:kT.G,*Ej+M:fB..AgP*EAPP+j_[APP+jG_@ APP+lPE&bCHfCH,RIESiSTRAWB,RYk|MBURG,
jSLICEÿPIZZAoMEAT : B:EmPOULTRY +GlRICE CRƴ,hB%LjCOOKE[RICEkURRYÔRICEoSTEAMêBOWLmPAGHET]jB_AD
fFR@CH FRIESmROASTED<WEET POTATOuD.GOfOD@eSUSHIfFRIED<HRIMPlƔ CAKE#SWIRL DESIGNzcSOFT ICE C_AM
n|VE[ICEkICE C_AMjDOUGHNUTiCOOKIEfHOCOLATEģm.DYfLOLLIPOPiCUST&DhH:EY POTjŁCAKEjB@TO BOXjPOTÿFOOD
lCOOK*GhƂKÔKNIFEoTEACUP WITHƱ H.D+vSAKE BOTT+ÔCUPtW*E GLASSkCOCKŐ GLASSoTROPIC% DR*KoBE, MUG
iCL*KêBE, MUGSsBABY BOTT+lƂKÔKNIFE#PLATEzaBOTT+#POPPêCORKyPOPCORNhRIBB:gWRAPPE[P_S@TpBIRTHDAY CAKE
nJƴ-O-L.T,NoCHRISTMAS T_EoFATH, CHRISTMASpI_WORKSb<P&K+RrB%LO:hP&TY POPP,mC:FET] B%LnT.ABATA T_E
nòE[FLAGSnP*E DECORŧpJAP.ESE DOLLSoC&P<T_AM,nW*[CHIMEkMO: VIEWêC,EM:YvSCHOOL<ATŨLoďDUŧ CAP
oƟ#]P : Ɖ āzbBOUQUETÿFLOW,SsMILIT&Y MED%o_M*D, RIBB:pMUSIC% KEYBO&D#JƴSzcSTUDIO MICROPH:Er+VEL<LID,
mC:TROL KNOBSnBEAME[ASC@DêMUSIC%ōESxDESC@DêMUSIC%ōESzgFILM FRAMESlADMISSI: ]CKETSrC&OUSEL HORSE
oF,RIS WHEELmROL+R COAST,oFƔêPO+ÔFƔvMICROPH:EjOVIE CAM,AmC*EMAgĦPH:Ej&]ST P%ETTEoTOP |ThCIRCUS T@T
l]CKETgCLAPP, BO&DnP,ƂMê&TSpVũO GAMEkDI_CT HITkSLOT MACH*EmBILLI&DSjGAME DIEiBOWL*GhFöPLAYêC&DS
uMUSIC%ōEkL]P+ MUSIC%ōESwSAXOPH:EjGUIT&gMUSIC% KEYBO&DqTRUMPEThVIOL*gMUSIC%<CO_nRUNN*G<HIRT#SĽ
xT@NIS RACQUETÔB%LxSKI .D<KI BOOTqBASKETB%LÔHOOPtŨQU,E[FLAGoSNOWBO&D,lRUNN,gSURF,fPORTS MED%mTROPHY
gHORSE RAC*GmAM,IC. FOOTB%LrRUGBY FOOTB%LoSWIMM,hWE( LIFT,nGOLF,gRACêMOTORCYC+kC&kCRICKET BATÔB%L
uVOL+YB%LkFIEL[HOCKEY<]CKÔB%LzcICE HOCKEY<]CKÔPUCKzaTAB+ T@NIS PADD+ÔB%LzdSNOW CAPPE[MƓTA*uCAMP*G
hBEACH#UMB_LLAsUILDêC:STRUC]:vHOUSE BUILD*GSpCITYSCAPEjD,ELICT HOUSE BUILD*GxCLASSIC% BUILD*GsDES,T
a ISL.DnNŧ% P&KnSTADIUMhHOUSE BUILD*GiWITH G&D@rOFFICE BUILD*GpJAP.ESE POST OFFICE
uEUROPE. POST OFFICEuHOSPIT%iB.KeAUTOMAƕTEL+R MACH*EyHOTELfLOVE HOTELkC:V@I@CE<TO_rSCHOOL
gDEP&TM@T<TO_qFACTORYhIZAKAYA L.T,NpJAP.ESE CAST+pEUROPE. CAST+pŘP@N.TnŴP@N.TnWAVêŘFLAGkŴFLAG
rROSETTEhŴROSETTEnLABELfBADM*T: RACQUET .D<HUTT+COCKzhOW .D/nAMPHORAhEMOJI ŀ FITZPATRICK TYPE-1-2d3
b4b5b6ziRATdMOUSEfOXcWAT, BUFF%OnCOWd]G,f+OP&DhRABBITgCATdDRAG:gCROCODI+jWH%EfSNAILcKEfHORSEfRAM
dGOATeǁEPfM:KEYgROOST,hCHICK@hDOGdPIGdBO&eE+PH.TiOCTOPUShSPIR%<HELLmBUGd.TdH:EYBEEiLADY BEET+lFƔ
eTROPIC% FƔnBLOWFƔiTURT+g|TCHêCHICKoBABY CHICKkFR:T-FACêBABY CHICKxBIRDeP@GU*hKO%AfPOOD+
gDROMED&Y CAMELpBACTRI. CAMELoDOLPH*hMOUSE ĆkCOW Ći]G, ĆkRABBIT ĆlCAT ĆiDRAG: ĆlSPƱêWH%EoHORSE Ć
kM:KEY ĆlDOG ĆiPIG ĆiFROG Ćj|MST, ĆmWOLF ĆjBE& ĆjP.DA ĆjIG NOSEhAW PR*TSkCHIPMUNKiEYESbc&dNOSEeMƱH
fT:GUEgŘUP ÈBƴH.[ĔzbÙ ÈBƴH.[ĔzdÎÈBƴH.[ĔzdăÈBƴH.[ĔzkFISƕH.D~qWAVêH.D~qOK H.D~mĉS UP~hÙ~qCLAPPêH.DS~
tşH.DS~pCROWNfWOM.S |TkEYEGLASSESkNECK]EhT-SHIRThJE.SfD_SSfKIM:OgBIK*IgWOM.S CLOƉSoPURSEfH.DBAG
hPOUCHfM.S<HOEjATH+]C<HOEnHIGH-HEE+D<HOEqWOM.S<.D%gBOOTSmFOOTPR*TSkBUST *<ILHOUETTEoS *<ILHOUETTEsOY
dGIRLeM.dWOM.fFAMILYgM.ÔWOM. HOLDêH.DSzcï M@ HOLDêH.DSrWOM@ HOLDêH.DSxPOLICE OFFIC,oWOM.#BUNNY E&S
vBRũ#VEILpP,S:#BL:[|IRwM.#GUA PI MAOkTURB.pOLD, M.dWOM.lBABYeC:STRUC]: WORK,tPR*CESSiJAP.ESE OG_
eGOBL*pGHOSTfBABY .GELkEXTRAT,_STRI% %I@w%I@ M:ST,nIMPdSKULLf*ƂMŧ DESK P,S:xGU&DSM.jD.C,gLIPS]CK
iNAIL POLƔlĆ MASSAGEm|IRCUThB&B, PO+lSYR*GEhPILLeKISSÕjLOVE +TT,lR*GeGEM<ƥjKISSeBOUQUEThCOUP+#Ɵ
rWEDD*GhBEATêƟmROK@ Ɵmï ƟSkSP&KLêƟpGROWêƟnƟ#&ROWqBLUE ƟkG_@ ƟlYELĠƟmPURP+ ƟmƟ#RIBB:r_VOLVêƟS
qƟ DECORŧqĪ<|PE#A ß *SũzgE+CTRŌL( BULBt.G,ÆmBOMBeS+EP*GÆpCOLLISI:ÆqSPLĽ*G<WEATÆwDROP+TgĽÆlPI+ÿPOO
lF+XE[BICEPSnDIZZYÆmSPEECH B%LO:oTHOUGHT B%LO:pŘFLOW,mHUND_[PO*TSÆvM:EY BAGjCURR@CY EXCH.GErƵDOLL&~
rC_DIT C&DlB.KNOTE#Y@~iDOLL&~lEURO~jPƓD~yM:EY#W*GSqCH&T#UP^ TR@[.[Y@~zmSEATeP,S:% COMPUT,rBRIEFCASE
jM*IDISCiFLOPPY DISKlOP]C% DISCmDVDdFI+ FOLD,lşFI+ FOLD,qPAGE#CURLjFACêUPoC%@D&iTE&-OFF C%@D&rC&[Ĕ
jH&T#UP^ TR@Dnǃ TR@DzbB& CH&TjCLIPBO&DjPUSHP*hRƓ[PUSHP*nPAP,CLIPjSTRA( RU+RoňRU+RqBOOKM&K TABSn+DG,
gNOTEBOOKa#DECORA]VE COV,zfŠBOOKlşBOOKjG_@ BOOKkBLUE BOOKjOR.GE BOOKlBOOKSfNAME BADGEkSCROLLgMEMO
eTE+PH:E _CEIV,sPAG,fFAX MACH*ElSATELLITE .T@NArPUBLŌADD_SS LOUDSPEAK,zbŨ,êMEGAPH:EsƱBOX TRAY
l*BOX TRAYkPƴAGEhE-MAILÆn*COMê@VELOPEr@VELOPE#ǃ/>zkŠMAILBOX#LOW,E[FLAGmƷFLAGzgşMAILBOX#ƷFLAG
lLOW,E[FLAGzfPOSTBOXd% HORNlNEWSPAP,jMOBI+ PH:Ea#į AT āzrVIBRŧ MODEoMOBI+ PH:E OFFqNO MOBI+ PH:ES
q.T@NA#B&SrCAM,Aa#FLĽrVũO CAM,AmTE+VISI:kRADIOfVũOCASSETTEnFILM PROJECTORoPORTAB+<T,EOoRAY, BEADS
mTWISƕįSzaĺ R(^Ôž şË/Sa#Ë[:EČLAYzzsǃÔUP^ şË/Szza.]ĺ ǃÔUP^ şË/SzzeĠBR(NESSÆvĘBR(NESSÆwSPEAK,#C.CELLŧƈ
zaa#:E<Ɠ[WAVEoTĂ<Ɠ[WAVESzfBATT,YhE+CTRŌPLUGnā-ÈMAGNIFYêGLASSzfR(-ÈMAGNIFYêGLASSzgĎ#*K P@rŠĎ#KEYuKEY
dĎeşĎjBELLa#C.CELLŧƈzdOOKM&KiL*KÆlRADIO BUTT:mBƴ#ž/>zg@D#ž/>zf:#Ň#ÎR(/>zzcSO:#į>zhTOP#UP^/>
zdNO :E UND, E(E@ÆzdKEYCAP T@k*PUTÆ Ƃ ƶÒ+TT,Spŝ+TT,StNUMB,ShSYMBOLShƶ+TT,SzfFI_eE+CTRŌTORCHoWR@CH
g|MM,gNUTÔBOLTmHOCHOfPISTOLgMICROSCOPEkTE+SCOPEjCRYST% B%Lmħ PO*TED<T&#ÌßzhJAP.ESEÆ Ƃ BEG*N,
zdTRID@T EMB+MoÅí BUTT:tÇí BUTT:tŋ _[ËkBLUE ËlOR.GE ĪoBLUE ĪsŝOR.GE ĪoBLUE ĪsUP-È_[éyÙ-È_[é
zbUP-PO*T*G<á_[ézfÙ-PO*T*G<á_[ézhöR(<|DOWE[ŘËziċR(<|DOWE[ŘËziË[ò POMMEEtROSS POMMEE#H%F-ËÀ
xmNOTŨ[ā<EMIË#ƜzgR(<EMIË#ƜzpSYMBOL ƂÕS C|PT,yŘƶòrƵƶòrCEL]C òmOMÆjDOVEÿPEACEnKAABAfMOSQUEgSYNAGOGUE
jM@ORAH#ĸ BR.ŨSzbBOWLÿHYGIEIApCĎ Ć :E OCĎkï OCĎjĂ OCĎmÝ OCĎkđ OCĎlħ OCĎjī OCĎmE( OCĎmĸ OCĎlT@ OCĎ
kE+V@ OCĎnTWELVE OCĎn:E-TŰkï-TŰjĂ-TŰmÝ-TŰkđ-TŰlħ-TŰjī-TŰmE(-TŰmĸ-TŰlT@-TŰkE+V@-TŰnTWELVE-TŰyR(<PEAK,
a#:E<Ɠ[WAVEoTĂ<Ɠ[WAVESzlBULLHORNa#SƓ[WAVESzaR*GêBELLmBOOKeC.D+gM.TELPIECE CĎrÅ<KULLÔòB:ESzbNO PIRACY
jHO+eM. * BUS*ESS<UIT +VITAT*GzgS+UTH OR<PYnD&K<UNGLASSESpSPID,a WEBkJOYS]CKiM. D.C*G
lÎH.[TE+PH:E _CEIV,zdTE+PH:E _CEIV,#PAGEzdăH.[TE+PH:E _CEIV,zeŘTOUCHƥ TE+PH:EzaŴTOUCHƥ TE+PH:E
zaTE+PH:E :ƩPÿMODEMzaCƚǁLL MOBI+ PH:EwBƴÿ@VELOPEqSTAMPE[@VELOPEq@VELOPE#L(N*GxFLYê@VELOPE
pP@Č<TAMPE[@VELOPEzaL*KE[PAP,CLIPSrŴPUSHP*nöÎP@CILgB%LPO*T P@nFƓTA* P@mPA*TBRUSHkCRAY:qEFT WRITêH.D
rõOK H.D~tƷH.D#F*G,S<PLAYEDzgEV,SE[ƷH.D#F*G,S<PLAYEDzhĉS UP~hÙ~qVICTORY H.DmH.D#ÌF*G, EXT@DED
zpAISE[H.D#P&T BETWE@ Ì.[RêF*G,SzzdŘÙ ÈÎH.[ĔzkSũWAYS ŘÎÈĔtăÈĔzbŴÎÈĔtăÈĔzkŴÎÈBƴH.[ĔzdăÈBƴH.[Ĕ
zkSũWAYS ŘUP ÈĔrÙ ÈĔzaŴUP ÈĔrÙ ÈĔzjŴUP ÈBƴH.[ĔzbÙ ÈBƴH.[ĔzdƟlDESKTOP COMPUT,qKEYBO&[.[MOUSE
sTĂ NEïRKE[COMPUT,SzaPR*T,gOCKET C%CULATORrŴH&D<HELL FLOPPY DISKzdŘH&D<HELL FLOPPY DISK
zdSOFT<HELL FLOPPY DISKwTAPE C&TRIDGEoWI_[KEYBO&Do:E BUTT: MOUSEqï BUTT: MOUSEpĂ BUTT: MOUSErRƴB%L
jOL[P,S:% COMPUT,vH&[DISKjSC_@gPR*T, IC:mFAX IC:iOP]C% DISC IC:rDOCUM@T#TEXTaÔPICTU_qPICTU_
vFRAME#PICTU_h]+Sf. XpŴFOLD,mFOLD,gşFOLD,lC&[Ĕ DIVID,SoFI+ BOXnFI+ CAB*ETmEMPTYōEa PAGEcDoNOTEa PAGE
cDiEMPTY DOCUM@TiPAGEaSlDOCUM@TiPAGEaSfWASTEBASKETlSPIR%ōE PADiC%@D& PADtDESKTOP W*DOWoM*IMIZE
hAXIMIZEiOV,LAPhĺ R(Ôā<EMIË/Szq.CELLŧ Xo*C_ASE F:T<IZEÆzaDEC_ASE F:T<IZEÆzaCOMP_SSI:lOL[KEY
hROL+D-UP NEWSPAP,tPAGE#Ë[TEXTwSTOCK CH&TlDAGG, KNIFEmLIPSeSPEAKêHEA[*<ILHOUETTEzcTĂ RAYS>fŤfāeR(
qā<PEECH BUBB+sR(<PEECH BUBB+tï<PEECH BUBB+SrĂ<PEECH BUBB+SuÎTHOUGHT BUBB+tăTHOUGHT BUBB+uÎ.G, BUBB+
ră.G, BUBB+sMOO[BUBB+lL(NêMOO[BUBB+hoB%LOT BOX#B%LOTpSńXiBOX#SńXpLD<ńXlX#BOLD<ńXzeL( ŨCKÕ
qB%LOT BOX#BOL[ŨCKzbWORL[MAPjMƓT FUJIkTOKYOƩW,lSTATUEÿLIB,TYqILHOUETTEÿJAP.tMOYAIfGR*NêĆa#SMILêEYES
zgĆ#TE&SÿJOYwSMILêĆ#şMƱHa .D<MILêEYESmCOLD<WEATkT(LY-ŠEYESzjH%OdORNSxW*KêĆmSMILêĆ#SMILêEYES
zfĆ<AVOURêDELICIOUS FOODze_LIEVE[ĆnSMILêĆ#Ɵ-S|PE[EYESrSUNGLASSESzaRKêĆnƹ ĆmEXP_SSI:+SS ĆtUNAMUSE[Ć
nĆ#COLD<WEATuP@Sđ ĆmC:FUSE[ĆjƓDE[ĆpKISSêĆmĆ THROWêA KISSuKISSêĆ#SMILêEYESmŠEYESzeĆ#STUCK-Ʊ T:GUE
aÔW*KêEYElT(LY-ŠEYESzzaDISAPPO*ƕĆrWORRIE[Ćm.GRY ĆkPƱêĆmCRYêĆlP,SEV,êĆqĆ#LOOKÿTRIUMPH
zaDISAPPO*ƕBUT _LIEVE[ĆzfFROWNêĆ#şMƱHze.GUƔE[ĆoFE&FUL ĆmWE&Y ĆkS+EPY Ćl]_[ĆkGRIMACêĆoLOUDLY CRYêĆ
sĆ#şMƱHuHUǁ[ĆlĆ#şMƱHÔCOLD<WEATzfSC_AMê* FE&wAST:ƔE[ĆpFLUǁ[ĆmS+EPêĆnDIZZY ĆkĆ WITHƱ MƱHj ìC% MASK
wGR*NêCAT Ć#SMILêEYESzkCAT Ć#TE&SÿJOYzbSMILêCAT Ć#şMƱHkƟ-S|PE[EYESzoCAT Ć#WRY<MI+xKISSêCAT Ć#ŠEYES
ziPƱêCAT ĆqCRYêCAT ĆpWE&Y CAT ĆoSL(LY FROWNêĆnSMILêĆvUPSũ-Ù ĆqĆ#ROLLêEYESmNO GOO[GESTU_pOK GESTU_
uP,S: BOWêDEEPLYuSEE-NO-EVIL M:KEYsHE&-NO-EVIL M:KEYtSPEAK-NO-EVIL M:KEYu|PPY P,S: RAISê:E H.D
zeP,S: RAISêBOTH H.DS * CE+BRŧziFROWN*GiWITH PƱêĆmFOLDE[H.DSyĥ È+AFySƱH WEST È+AFyNORĊ È+AF
ySOUĊ È+AFyõĥ È+AFySƱH WEST È+AFyNORĊ È+AFySOUĊ È+AFzgĥ ÈV*E +AFzeSƱH WEST ÈV*E +AFzeNORĊ ÈV*E +AF
zeSOUĊ ÈV*E +AFzeƵĥ ÈV*E +AFzeSƱH WEST ÈV*E +AFzeNORĊ ÈV*E +AFzeSOUĊ ÈV*E +AFzkĥ ÈBUDxSƱH WEST ÈBUD
xNORĊ ÈBUDxSOUĊ ÈBUDxƵĥ ÈBUDxSƱH WEST ÈBUDxNORĊ ÈBUDxSOUĊ ÈBUDzdOLĠQUILTí ąa * ÅíztSOLI[QUILTí ą
a * Åízsž ROCKETqUP^ ROCKEToƋROCKETrǃ ROCKETqSńLĿET ązcÓ<ńLĿET ąziLĿşET ązaƵLĿşET ązaAMP,S.[ą
ySWĽ AMP,S.[ąxŸ ƵĭõĨ Ņ ązlĨ Ņ ązlĠĭĨ Ņ ązzhƵ*T,ROB.G ązbSŸ *T,ROB.G ązgÓ<Ÿ *T,ROB.G ązmV,Y ÓƎhýƎ
zbŨCK, BO&Dný ŨCK, BO&DuOCKETgHELICOPT,kSTEAM LOCOMO]VEqRAILWAY C&lHIGH-SPEE[TRA*a#BUL+T NOSEziTRA*
fMETROfL( RAILkSTŧhTRAMa C&iBUSd:COMêBUSmTROL+YBUSkBUS<TOPiM*IBUShAMBUL.CEjFI_ @G*ElPOLICE C&
k:COMêPOLICE C&tTAXIe:COMêTAXInAUTOMOBI+k:COMêAUTOMOBI+t_C_ŧ% VEHIC+uDELIV,Y TRUCKo&]CULAƕLORRY
rTRACTORhM:ORAILgUNTA* RAILWAYqSUSP@SI: RAILWAYsMƓTA* CAB+WAYrA,I% TRAMWAYoSHIPeROWBOAThSPEEDBOAT
jÊ TRAFFŌL(yØ TRAFFŌL(wC:STRUC]:~rPOLICE C&S _VOLVêL(zcňFLAG : POSTxDOOReNO @TRY~nSMOK*GÆoNO<MOK*GÆ
rPUT LITT, * ITS PLACEÆzfDOō LITT,ÆuPOTAB+ WAT,ÆuN:-POTAB+ WAT,ÆyBICYC+hNO BICYC+SlBICYCLIST
jMƓTA* BICYCLISTsPEDESTRI.kNO PEDESTRI.SoCHILDR@ ò*GrM@SÆlWOM@SÆn_STROOMiBABYÆlTOI+TgWAT, CLOSET
mSHOW,gBATHaTUBhPASSPORT C:TROLqCUSTOMShBAGGAGE CLAIMnÎLUGGAGEmé#RƓDE[ŻSzePROHIBITED~pË[*ƂMŧ<OURCE
zbBOYSÆlGIRLSÆmCOUCHÔƚPoS+EPêACCOMMODŧvHOPPêBAGSnBELLHOP BELLkDdPLACEÿWORSHIPqOCTAG:%~oSHOPPêTROL+Y
pTUPAfPAGODAgH*DU TEMP+lUTdE+VATOR;6iPLAYGRƓD<LũqWHEELfRêBUOYj|MM,ÔWR@CHrSHIELDgOIL DRUMiMOTORWAY
iRAILWAY TRƴnMOTOR BOATkUP-ÈMILIT&Y AIRPL.ErAIRPL.EiŝAIRPL.EzbŝAIRPL.EoNORƉAST-ÈAIRPL.E
zcAIRPL.E DEP&TU_j&RIV*G;4rSATELLITEj:COMêFI_ @G*EuDIESEL LOCOMO]VErPASS@G,<HIPoSCOOT,hMOTOR<COOT,
nC.OEfS+DeFLY*G<AUC,nSKATEBO&DkAUTO RICKS|WnPICKUP TRUCKmROL+R<KATE;4m%ŨMIC%Æ Ƃ QU*TESS@CEmAIRdFI_
eE&THfWAT,fAQUAƂ]Sg _GIAa-2hVITAEa-2mV*EG&a-2b3jSULFURgPHILOSOPH,S<ULFURtÅ<ULFURmM,CURY<UBLIMATEa-2
b3tC*NAB&iS%TeNIT_fVITRIOLa-2jROCK<%Ta-2lGOLDeSILV,gIR: O_a-2kCROCUSÿIR:o_GULUSÿIR:pCOPP, O_
kIR:-COPP, O_pSUBLIMATEÿCOPP,tCROCUSÿCOPP,a-2rOPP, .]M:IATEsS%TÿCOPP, .]M:IATEzaUBLIMATE OF<%TÿCOPP,
zcV,DIGRISjT* O_h+A[O_i.]M:Y O_mSUBLIMATEÿ.]M:Yu%Tÿ.]M:YpUBLIMATE OF<%Tÿ.]M:YzeV*EG&ÿ.]M:Y
t_GULUSÿ.]M:Ya-2oa-2b3b4j%K%Ia-2iM&CASITEjS%-AMM:IACm&S@ICh_%G&a-2jAURIPIGM@TlBISMUTH O_lT&T&a-2
iQUICK LIMEkBORAXa-2b3h%UMeOILdSPIRITgT*CTU_iGUMdWAXdPOWD,gC%XeTUTTYfCAPUT MORTUUMnSCEPT,ÿJOVE
pCADUCEUSiTRID@ThST&_[TRID@TpLODESƥjSOAPeUR*EfHORSE DUNGkĽESfPOT ĽESjBRICKfPOWD,E[BRICKoAM%GAM
hSTRATUM<UP,<TRATUMa-2wUBLIMŧlP_CIPITATElDIS]LLeSOLVEa-2kPURIFYeT_FAC]:mCRUCIB+a-2b3b4b5k%EMBIC
hBATHÿM&YeVAPOURSp_TORTgHOUReN(fDAY-N(jM:THfęDRAMeƓCE;13zhŴā-ÈISOSCE+S ăéznUP-ÈISOSCE+S ăé
zlR(-ÈISOSCE+S ăézoÙ-ÈISOSCE+S ăéznSL(LY<áËzcĤ BOL[ŘËyBOL[ŘËrƵŘËsV,Y ƵŘËxEXT_MELY ƵŘËzdŘË C:TA*êÅ<áË
zrRƓ[T&GETmŴT*YílSL(LYƀízcL( ÇísĤ ÇítBOL[ÇírƵÇísV,Y ƵÇíxEXT_MELY ƵÇízdÇí C:TA*êŴV,YƀírĤízsŬ T&GET
nŴT*Y ĪmV,Y<áĪsĤ<áĪzbŘDIAM:[C:TA*êŴV,Y<áĪsĤ ĪzuDIAM:[T&GEToŴT*Y LOZ@GEmV,Y<áLOZ@GEsĤ<áLOZ@GE
zbŘLOZ@GE C:TA*êÅ<áLOZ@GEztTH* G_EK òqL( G_EK òrĤ G_EK òsBOL[G_EK òqV,Y BOL[G_EK òqƵG_EK ò
wEXT_MELY ƵG_EK òzcTH*<%]_mL(<%]_nĤ<%]_oBOLD<%]_mÓ<%]_nV,Y Ó<%]_sEXT_MELY Ó<%]_xL( Fđ<ćzbĤ Fđ<ć
zcBOL[Fđ<ćzaƵFđ<ćzbV,Y ƵFđ<ćzgEXT_MELY ƵFđ<ćzlL(<IX<ćzaĤ<IX<ćzbBOLD<IX<ćyÓ<IX<ćzaV,Y Ó<IX<ć
zfEXT_MELY Ó<IX<ćzkL( E(<ćzcĤ E(<ćzdBOL[E(<ćzbƵE(<ćzcV,Y ƵE(<ćzhL( TĂĮzfĤ TĂĮzgTĂĮ
yĤ TĂ PO*ƕP*WHEEL<T&zjL( ÝĮzeĤ ÝĮzfÝĮxĤ Ý PO*ƕP*WHEEL<T&ziý L( Ý PO*ƕP*WHEEL<T&zpL( FđĮzeƵFđĮzeĤ<IXĮ
zeÓ<IXĮzdħ PO*ƕP*WHEEL<T&zaĤ E(ĮzgƵE(ĮzfV,Y ƵE(ĮzkƵE( PO*ƕP*WHEEL<T&ziL( TWELVEĮzgƵTWELVEĮ
kP*WHEEL<T&zjË[éqNEGA]VE Ë[ézaËDíoNEGA]VE ËDí;8xŋ OR.GE ËnYELĠËnG_@ ËmPURP+ ËnBROWN Ëm_DíkBLUEí
lOR.GEínYELLOWínG_@ímPURP+ínBROWNí;5sƵŎS~;16rž/#ŝé/ĦzuUP^/#ŝé/Ħzsį#ŝé/Ħzvǃ/#ŝé/Ħzuž/#Ĥ é/Ħ
zvUP^/#Ĥ é/Ħztį#Ĥ é/Ħzwǃ/#Ĥ é/Ħzvž/#ŋ é/ĦzuUP^/#ŋ é/Ħzsį#ŋ é/Ħzvǃ/#ŋ é/Ħ;5zuž/#ŝþzxUP^/#ŝþzvį#ŝþ
zyǃ/#ŝþzxž/#þzrUP^/#þzpį#þzsǃ/#þzrƵž/#þzrUP^/#þzpį#þzsǃ/#þzrž/#ŋ þzxUP^/#ŋ þzvį#ŋ þzyǃ/#ŋ þ
zzeāŒ#N&ROW<|FTzyUPŒ#N&ROW<|FTzwR(Œ#N&ROW<|FTzzaÙŒ#N&ROW<|FTzyāŒ#Ĥ<|FTzyUPŒ#Ĥ<|FTzwR(Œ#Ĥ<|FT
zzaÙŒ#Ĥ<|FTzyāŒ#BOLD<|FTzwUPŒ#BOLD<|FTzuR(Œ#BOLD<|FTzxÙŒ#BOLD<|FTzwāŒ#Ó<|FTzxUPŒ#Ó<|FTzvR(Œ#Ó<|FT
zyÙŒ#Ó<|FTzxāŒ#V,Y Ó<|FTzzdUPŒ#V,Y Ó<|FTzzbR(Œ#V,Y Ó<|FTzzeÙŒ#V,Y Ó<|FTzzdž F*G,-POST/
zcUP^ F*G,-POST/zaƋF*G,-POST/zdǃ F*G,-POST/zcžíD/xUP^íD/vR(^íD/yǃíD/xž COMP_SSED/zbUP^ COMP_SSED/
yƋCOMP_SSED/zcǃ COMP_SSED/zbž ƵCOMP_SSED/zhUP^ ƵCOMP_SSED/zfƋƵCOMP_SSED/ziǃ ƵCOMP_SSED/zhž Ó/vUP^ Ó/
tƋÓ/wǃ Ó/;9vž<Ÿ/zbUP^<Ÿ/yR(^<Ÿ/zcǃ<Ÿ/zbĥ<Ÿ/vEAST<Ÿ/zcSOUĊ<Ÿ/vWEST<Ÿ/zcÎR(<Ÿ/zcUP Ù<Ÿ/
;7yWũ-ĦE[ž L(ģB/zbUP^ L(ģB/yƋL(ģB/zcǃ L(ģB/zbĥ L(ģB/vEAST L(ģB/zcSOUĊ L(ģB/vWEST L(ģB/zcžģB/uUP^ģB/
sR(^ģB/vǃģB/uĥģB/pEASTģB/vSOUĊģB/pWESTģB/vž ĤģB/zcUP^ ĤģB/zaƋĤģB/zdǃ ĤģB/zcĥ ĤģB/wEAST ĤģB/
zdSOUĊ ĤģB/wWEST ĤģB/zdž ÓģB/zbUP^ ÓģB/yƋÓģB/zcǃ ÓģB/zbĥ ÓģB/vEAST ÓģB/zcSOUĊ ÓģB/vWEST ÓģB/
zcž V,Y ÓģB/zgUP^ V,Y ÓģB/zeƋV,Y ÓģB/zhǃ V,Y ÓģB/zgĥ V,Y ÓģB/zbEAST V,Y ÓģB/zhSOUĊ V,Y ÓģB/
zbWEST V,Y ÓģB/;9ztž é/ĦzdUP^ é/ĦzbƋé/Ħzeǃ é/Ħzdž Ç/ WITH* é/ĦzwUP^ Ç/ WITH* é/ĦzuƋÇ/ WITH* é/Ħ
zxǃ Ç/ WITH* é/Ħzwž/#NOTŨ[ŐziUP^/#NOTŨ[Őzgį#NOTŨ[Őzjǃ/#NOTŨ[ŐziÓ/<|FT WIDTH :Edï THIRDSk:E H%FeTHIRD
ziž œ-S|DE[Ç/zkƋœ<|DE[Ç/zlžƩP<|DE[Ç/zhƋTOP<|DE[Ç/ziž ā-S|DE[Ç/ziƋR(-S|DE[Ç/zkž R(-S|DE[Ç/
zjƋā-S|DE[Ç/zjž Bƴ-]LTED<|DOWE[Ç/zrƋBƴ-]LTED<|DOWE[Ç/zsž FR:T-]LTED<|DOWE[Ç/zsƋFR:T-]LTED<|DOWE[Ç/
ztÇ/<|FT WIDTH :Edï THIRDS;3zj&ROW ÈUP^ TH@ ĥxƋTH@ CURV*G<ƱH WEST;79zyË[ò)EE#ÝējƛouÎęË#ÝējƜjWOēiß
jqÙW&[FACêàeNOTŨ[àmà#ßnNOTŨ[à#ßzmP*Ũ[F*G,SpŘƟlBROWN ƟlP*CHêH.DnZIPP,-MƱH ĆrM:EY-MƱH ĆqĆ#TH,MOMET,
vN,[ĆjTH*KêĆnĆ#Ħ-B.DAGEwROBOT ĆkHUGGêĆmðOF Ɖ HORNSrC%L ME H.DmƷBƴÿH.Dtā-FACêFISTqR(-FACêFISTrH.DS|KE
f#ĔÔÌF*G,S òEDzrI LOVE YOU H.D~uĆ#COWBOY |TuCLOWN ĆkNAUSEAƕĆoROLLê: Ɖ FLOOR LAUGH*GzeDROOLêĆnLYêĆ
kĆ P%MjSNEEZêĆnĆ#:E EYEBROW RAISEDzdGR*NêĆ#ST& EYESj:E ŋÔ:E<áEYEzvĆ#F*G, COV,êŠLIPS
zmS,IOUS Ć#SYMBOLS COV,êMƱHzoMILêĆ#SMILêEYESÔH.[COV,êMƱHzzeĆ#şMƱH VOMIT*GzeSHOCKE[Ć#EXPLODêĦ
zhP_GN.T WOM.oB_AST-FEED*GoP%MS UPƩGƤ,rSELFIEgPR*CEgM. * TUXEDOmOTH, CHRISTMASqSHRUG
fP,S: DOêC&TWHEELwJUGGL*GiF@C,gMOD,N P@TATHL:rW_ST+RSiAT, POLOkH.DB%LiDIVêMASKlWILƕFLOW,
nDRUM#DRUMS]CKSuCL*KêGLASSESqTUMB+R GLASSnSPO:fGO% NETiRIF+fFIRST PLACE MED%rSEC:[PLACE MED%
sTHIR[PLACE MED%rBOXêGLOVEmM&]% &TS UNIƂMuCURL*G<ƥnLAòE<]CKÔB%LxSOFTB%LiFLYêDISClCROISS.TjAVOCADO
hCUCUMB,iBAC:fPOTATOgC&ROTgBAGUETTE B_ADoG_@<%ADlSH%ĠP.ÿFOODsTUFFE[FLATB_ADrEGGdGLASSÿMILKnPE.UTS
hKIWIFRUITjP.CAKESiDUMPL*GiƂTUNE COOKIEoTAKEƱ BOXlCHOPS]CKSkBOWL#SPO:pCUP#STRAWnOC:UThBROCCOLIiPIE
c_TZELhCUTÿMEATlS.DWICHiC.NE[FOODl+AFY G_@lM.GOeO: CAKEjBAGELfSMILêĆ#SMILêEYESÔTĂ ƟSzwYAWNêĆ
mSMILêĆ#TE&wĆ#P&TY HORNÔP&TY |TyUNī EYESÔWAVY MƱHzlOV,HEAƕĆpF_EZêĆnN*JAfDISGUISE[ĆoĆ HOLDêBƴ TE&S
sWITH P+ADêEYESxS&IeLAB COATiGOGG+ShHIKêBOOTlFLAT<HOEjCRABeLI: ĆjSCORPI:iTURKEYgUNICORN ĆmEAG+fDUCK
eBATdSH&KfOWLdFOX ĆiBUTT,FLYjDE,eGORILLAhLIZ&DgRH*OC,OSkSHRIMPfQUIDfGIRAFFE ĆmZEBRA ĆkHEDGEHOG
iSAUROPODiT-_XfCRICKEThK.G&OOiLƚAfPEACOCKhHIPPOPOTAMUSmP&ROTgRACCO:hLOBST,hMOSQUITOhICROBEhBADG,gSW.
eMAMMOTHhDODOeSLOTHfOTT,eR.GUT.jSKUNKfFƚ*GOiOYST,gBEAV,fIS:fSE%eGUũ DOGjPROBêC.EmEMOJI COMP:@T _[|IR
iCURLY |IRkB%DeŘ|IRzbB:Ee+GdFOOTeTOOTHfSUP,H,OeVILLA*lAFETY VESTlE&#HE&êAIDuMOTORIZE[WHEELC|IR
t.U% WHEELC|IRqECH.IC% &Md+GoŨESE WEDGElUPCAKEhS%T<|K,lBEV,AGE BOXmG&LICg:I:fF%AFELhWAFF+gBUTT,
gMATE DR*KkICE CUBEiBUBB+ TEAkTROLLfST.DêP,S:pKNEELêP,S:pDEAF P,S:lĆ#M:OC+rADULTfCHILDfOLD, ADULT
lBE&DE[P,S:oP,S:#ĦSC&Fo*<TEAMY ROOMoCLIMB*Gi* LOTUS POSI]:yMAGEeFAIRYfVAMPI_hM,P,S:jELFdG@IEfZOMBIE
gBRA*fOR.GE ƟmBIL+[CAPkSC&FfGLOVESgCOATeSOCKSf_[GIFT @VELOPErFI_CRƴ,lJIGSAW PUZZ+ PIECEtTEST TUBE
jPETRI DƔkDNA ĭHELIXqCOMPASShABACUSgFI_ EXT*GUƔ,rTOOLBOXhBRICKfMAGNETgLUGGAGEgO]: BOTT+nSPOOLÿTH_AD
pB%LÿY&NmSAFETY P*kTEDDY BE&kBROOMeASKETgROLLÿPAP,nB& OF<OAPlSP:GEg_CEIPThNAZ& AMU+TlEUTR% ŨSS K*G
eQUE@fROOKeBƔOPgKN(gPAWNsÇĢƂTYƾzuÅĢƂTYƾzuƹĢƂTYƾzwŘŨSS K*GçzcQUE@çzdROOKçzcBƔOPçzeKN(çzePAWNç
zoŴŨSS K*GçzcQUE@çzdROOKçzcBƔOPçzeKN(çzePAWNçzoƹ ŨSS K*GçzcQUE@çzdROOKçzcBƔOPçzeKN(çzePAWNç
zqÇĢ:EűTŰƾzziÅĢ:EűTŰƾzziƹĢ:EűTŰƾzzkŘŨSS õK*GeQUE@fROOKeBƔOPgKN(gPAWNxŴŨSS õK*GeQUE@fROOKeBƔOPgKN(
gPAWNxƹ ŨSS õK*GeQUE@fROOKeBƔOPgKN(gPAWNzaÇĢïűTƣƾzziÅĢïűTƣƾzziƹĢïűTƣƾzzkŘŨSS K*GåzpQUE@åzqROOKå
zpBƔOPåzrKN(åzrPAWNåzzcŴŨSS K*GåzpQUE@åzqROOKåzpBƔOPåzrKN(åzrPAWNåzzcƹ ŨSS K*GåzpQUE@åzqROOKåzpBƔOPå
zrKN(åzrPAWNåzzeÇĢTĂűFIFTE@ DEG_ESzzgÅĢTĂűFIFTE@ DEG_ESzzgƹĢTĂűFIFTE@ DEG_ESzziŘŨSS EQUIHOPP,
wŴŨSS EQUIHOPP,wƹ ŨSS EQUIHOPP,yŘŨSS EQUIHOPP,çzuŴŨSS EQUIHOPP,çzuƹ ŨSS EQUIHOPP,çzwŘŨSS KN(-QUE@
fROOKeBƔOPzaŴŨSS KN(-QUE@fROOKeBƔOP;13zaXI.GQI _[G@,%hM.D&*iE+PH.TiHORSEfCH&IOTg.N:gSOLDI,lŴG@,%
hM.D&*iE+PH.TiHORSEfCH&IOTg.N:gSOLDI,;3vB%+T<HOESm:E-PIECE<WIMSUITsBRIEFSgŁSgTH:G<.D%;4mDROPÿBLOOD
nADHESđ B.DAGEqSTƤOSCOPElX-RAYfCRUTCH;4gYO-YOfKITEeP&ACHUTEjBOOM,.GjMAGŌW.DkP*ATAgNESTêDOLLS
;10nR*GE[PL.ETnC|IRfRAZORfAXEdDIYA ƚPjB.JOfMILIT&Y HELMETpACCORDI:jŭDRUMjCO*d&P@TRY<AWnSC_WDRIV,
lLADD,gàeMIRRORgW*DOWgPLUNG,hSEWêNEED+nKNOTeBUCKETgMOUSE TRAPkTOOTHBRUSHkĦSƥjPLAC&DhROCKeMIRROR B%L
lID@]FICŧ C&DtĠBATT,Yl|MSA;4fFLYdWORMeBEET+gCOCKROACHjPOTƕPL.TmWOODeFEATH,hLOTUSfCOR%fEMPTY NEST
kNEST#EGGS;6o.ATOMIC% ƟqLUNGSfPEOP+ HUGG*Gn_GN.T M.dP,S:o,S:#CROWN;11rBLUEB,RIESkELL PEPP,lOLđ
fFLATB_ADjTAM%EgF:DUEgTEAPOTgPOURêLIQUIDoBE.SfJ&;7dMELTêĆmS%UTêĆnĆ#şEYESÔH.[OV, MƱHzePEEKêEYElĩ MƱH
yßƕŜ ĆqBITêLIPjUBB+S;9hH.D#Ĕ F*G,Ôĉ òEDzpƋH.Dpž H.DoP%M Ù H.DjUP H.DmĔ ÈAT Ɖ VIEW,zdƟ H.DS
;10lBĎ<EXT.T-1b2b12c3b13c23c123d4b14c24c124d34c134d234d1234e5b15c25c125d35c235d1235e45c145d245d1245
e345d1345e2345e12345f6b16c26c126d36c136d236d1236e46c146c246e346d1346e2346e12346f56c156d256d1256e356
d1356e2356e12356f456d1456e2456e12456f3456e13456f23456töÎBĎ ĩ öÌÎƃŕgR(zhċÌÎƃŕgR(zbÎƃŕzvăBĎ ĩ ċÌÎTO ċŕ
gR(zhöÌÎTO ċŕgR(zbÎTO ċŕuÌÎTO ċÌR(ziŕ ƃÌR(zdÎƃÌR(zbŕƩ ċÌR(zdÎTO ċÌR(zbŕƩ ċR(zxÎBĎ ĩ ċŕƩ ċÌR(
zdÎTO ċÌR(zbŕ ƃÌR(zdÎƃÌR(zbŕ ƃR(vÌÎƃÌR(zzpċăBĎ ĩ öÌÎƃŕgR(zhċÌÎƃŕgR(zbÎƃŕzwÎBĎ ĩ ċÌÎTO ċŕgR(
zhöÌÎTO ċŕgR(zbÎTO ċŕuÌÎTO ċÌR(ziŕ ƃÌR(zdÎƃÌR(zbŕƩ ċÌR(zdÎTO ċÌR(zbŕƩ ċR(zwăBĎ ĩ ċŕƩ ċÌR(zdÎTO ċÌR(
zbŕ ƃÌR(zdÎƃÌR(zbŕ ƃR(vÌÎƃÌR(zzk.[R(ÔöňTĂņS BĎzzhÎ.[LOW,ÔăňTĂņS BĎzzgUPP,ÔÎ.[öňTĂņS BĎ
zzgÎ.[UPP,ÔăňTĂņS BĎzzbň:Eņ BĎziċň:Eņ BĎzjăň:Eņ BĎzjöň:Eņ BĎzjØ Ų-2b3b4b5b6b7zcÊ Ų-2b3b4b5b6b7
zeÎ.[öŲwċŲzgR(ÔċŲwöŲzhUPP,ÔöŲzhÊ Ų-1358zhċ:Eņ BĎrTĂƸtFđƸsTĂņS BĎuSīƸzaă:Eņ BĎrTĂƸtFđƸsTĂņS BĎuSīƸ
zaÎęĤ<|DEwăęĤ<|DExċęĤ<|DExöęĤ<|DEx*V,SE Ĥ<|DEuċęBĎÔöę*V,SE Ĥ<|DEzq*V,SE Ĥ<|DEÔöęBĎ
;2zzcÎę*V,SE Ĥ<|DEÔăęBĎzzbŨCK, BO&[FILLs*V,SE ŨCK, BO&[FILLzbƵÊ FILLvċÎƃăFILLyăƃÎFILLy.[öňęBĎ
zmÎ.[ăňęBĎzlċÎňĤ<|DEzdăňĤ<|DEzköăňĤ<|DEzeÎňĤ<|DEzjBOX DRAW*GS L( ĩ ċŕƩ ÌāeR(zdÌÎƃŕuăƃŕzdċŕƩ ÌÎƃŕuăƃŕ
ztÌÎƃŕƩ ÌR(zdċŕƩ ÌR(zsċŕƩ ÌÎ.[ÌăƃŕzmR(ÔÌÎƃŕzgƃŕƩ ÌāzlÎƃŕƩ ÌR(zzjÌÎTO ċŕƩ ÌăƃŕzzcăTO ċŕƩ ÌÎƃŕzzjĪ
qÊ#Øƈzza&ROWĦ-S|PE[PO*T,y*V,SE ŨCKÕsÎęRUNNêM.văęRUNNêM.w*V,SE ǃ/#]P žzrž/ÔUPP,ÔöŲzzcįÔUPP,ÔöŲ
zzdǃ/ÔăŲzrUP^/ÔăŲzpÎęFOLD,qăęFOLD,rVOũ[G_EK òsăOP@í[ßwNEGA]VE ĩ òfÌăƃŕzdĪzaŘÓ<%]_#RƓDE[ŻS
zpÎTHIR[ŘăÈĔzmÌTHIR[ŘăÈĔzoăTHIR[ŘăÈĔznNEGA]VEí[ƇzfS]CK FIGU_a#&MS RAISEDq+.êāeR(nWITH D_SSxŘUP-ÈŨVR:
;38zaSEGM@ƕÖe:EdïcĂfÝdđeħcīfE(fĸ;64519uCJK COMPA]BILITY ũOŊ-2F800b1b2b3b4b5b6b7b8b9bAbBbCbDbEbFc10b1
b2b3b4b5b6b7b8b9bAbBbCbDbEbFc20b1b2b3b4b5b6b7b8b9bAbBbCbDbEbFc30b1b2b3b4b5b6b7b8b9bAbBbCbDbEbFc40b1
b2b3b4b5b6b7b8b9bAbBbCbDbEbFc50b1b2b3b4b5b6b7b8b9bAbBbCbDbEbFc60b1b2b3b4b5b6b7b8b9bAbBbCbDbEbFc70b1
b2b3b4b5b6b7b8b9bAbBbCbDbEbFc80b1b2b3b4b5b6b7b8b9bAbBbCbDbEbFc90b1b2b3b4b5b6b7b8b9bAbBbCbDbEbFcA0b1
b2b3b4b5b6b7b8b9bAbBbCbDbEbFcB0b1b2b3b4b5b6b7b8b9bAbBbCbDbEbFcC0b1b2b3b4b5b6b7b8b9bAbBbCbDbEbFcD0b1
b2b3b4b5b6b7b8b9bAbBbCbDbEbFcE0b1b2b3b4b5b6b7b8b9bAbBbCbDbEbFcF0b1b2b3b4b5b6b7b8b9bAbBbCbDbEbFd900b1
b2b3b4b5b6b7b8b9bAbBbCbDbEbFc10b1b2b3b4b5b6b7b8b9bAbBbCbDbEbFc20b1b2b3b4b5b6b7b8b9bAbBbCbDbEbFc30b1
b2b3b4b5b6b7b8b9bAbBbCbDbEbFc40b1b2b3b4b5b6b7b8b9bAbBbCbDbEbFc50b1b2b3b4b5b6b7b8b9bAbBbCbDbEbFc60b1
b2b3b4b5b6b7b8b9bAbBbCbDbEbFc70b1b2b3b4b5b6b7b8b9bAbBbCbDbEbFc80b1b2b3b4b5b6b7b8b9bAbBbCbDbEbFc90b1
b2b3b4b5b6b7b8b9bAbBbCbDbEbFcA0b1b2b3b4b5b6b7b8b9bAbBbCbDbEbFcB0b1b2b3b4b5b6b7b8b9bAbBbCbDbEbFcC0b1
b2b3b4b5b6b7b8b9bAbBbCbDbEbFcD0b1b2b3b4b5b6b7b8b9bAbBbCbDbEbFcE0b1b2b3b4b5b6b7b8b9bAbBbCbDbEbFcF0b1
b2b3b4b5b6b7b8b9bAbBbCbDbEbFdA00b1b2b3b4b5b6b7b8b9bAbBbCbDbEbFc10b1b2b3b4b5b6b7b8b9bAbBbCbD
;722404ziL.GUAGE TAG;31mTAG<PACEfŇqŅoNUMB,~lDOLL&~lP,C@T~mAMP,S.DiPOSTROPHEkÎúqăúrƍiƖ~jĨfHYPH@-M*US
mĄjSOLIDUShÖe:EdïcĂfÝdđeħcīfE(fĸkƦfSEMIƦjô~oŎS~lè~rƇnCOMM,CI% ATnƶ$AbBbCbDbEbFbGbHbIbJbKbLbMbNbObPbQ
bRbSbTbUbVbWbXbYbZvEFTíÃtýƎo(íÃuÐłrĠŜiŃłmţAbBbCbDbEbFbGbHbIbJbKbLbMbNbObPbQbRbSbTbUbVbWbXbYbZtEFT ƅ
sØ ŜnăƅtĚjC.CEL TAG;129kŗ]:<E+CTOR-17b8b9c20b1b2b3b4b5b6b7b8b9c30b1b2b3b4b5b6b7b8b9c40b1b2b3b4b5b6b7
b8b9c50b1b2b3b4b5b6b7b8b9c60b1b2b3b4b5b6b7b8b9c70b1b2b3b4b5b6b7b8b9c80b1b2b3b4b5b6b7b8b9c90b1b2b3b4
b5b6b7b8b9c100b1b2b3b4b5b6b7b8b9c10b1b2b3b4b5b6b7b8b9c20b1b2b3b4b5b6b7b8b9c30b1b2b3b4b5b6b7b8b9c40b1
b2b3b4b5b6b7b8b9c50b1b2b3b4b5b6b7b8b9c60b1b2b3b4b5b6b7b8b9c70b1b2b3b4b5b6b7b8b9c80b1b2b3b4b5b6b7b8b9
c90b1b2b3b4b5b6b7b8b9d200b1b2b3b4b5b6b7b8b9c10b1b2b3b4b5b6b7b8b9c20b1b2b3b4b5b6b7b8b9c30b1b2b3b4b5b6
b7b8b9c40b1b2b3b4b5b6b7b8b9c50b1b2b3b4b5b6"

/-- Further names of characters, among them those of control characters. -/
def aliases : String :=
"aNUL;0aLeSOH;0cTART OF HEADINGhTEXT;0lXdEND OF TEXT;0kTXcND OF TRANSMISSION;0sOTcNQ;0aUIRYhACK
;0aNOWLEDGEkLERT;0fBELcACKSPACE;0iScCHARACTER TABULATION;0uHORIZONTAL TABULATION;0uT;0cTAB
dEND OF LINE;0kOL;0dLF;0bINE FEED;0jNEW LINE;0hLcLINE TABULATION;0pVERTICAL TABULATION;0sTcFF
;0bORM FEEDjCARRIAGE RETURN;0oRcLOCKING-SHIFT ONE;0rSHIFT OUT;0iOcLOCKING-SHIFT ZERO;0sSHIFT IN
;0hIcDATA LINK ESCAPE;0pLEcC1;0cEVICE CONTROL ONErC2;0cEVICE CONTROL TWOrC3;0cEVICE CONTROL THREE
tC4;0cEVICE CONTROL FOURtNAK;0cEGATIVE ACKNOWLEDGEuSYN;0aCHRONOUS IDLEqEND OF TRANSMISSION BLOCK
;0yTBdCAN;0aCELgEND OF MEDIUM;0mOMdSUB;0aSTITUTEkESC;0aAPEgFILE SEPARATOR;0nS
;0cINFORMATION SEPARATOR FOURzbGROUP SEPARATOR;0oS;0cINFORMATION SEPARATOR THREEeWO
;0zaRECORD SEPARATOR;0pScINFORMATION SEPARATOR ONE;0zaUNIT SEPARATOR;0nScSP;95cDEL;0aETEgPAD
;0aDING CHARACTERrHIGH OCTET PRESET;0qOPdBPH;0cREAK PERMITTED HEREuNBH;0cO BREAK HEREnIND;0aEXfNEL
;0bXT LINEjSSA;0cTART OF SELECTED AREAwEND OF SELECTED AREA;0tSAdCHARACTER TABULATION SET
;0yHORIZONTAL TABULATION SET;0yTSdCHARACTER TABULATION WITH JUSTIFICATION
;0zoHORIZONTAL TABULATION WITH JUSTIFICATION;0zoTJdLINE TABULATION SET;0tVERTICAL TABULATION SET
;0wTSdPARTIAL LINE DOWN;0eFORWARD;0tLDcARTIAL LINE BACKWARD;0iUP;0oLUdREVERSE INDEX;0fLINE FEED
;0qIcSINGLE SHIFT TWO;0k-SHIFT-2;0nS2cINGLE SHIFT THREE;0m-SHIFT-3;0nS3dDCS;0cEVICE CONTROL STRING
vPRIVATE USE ONE;0e-1;0mU1cRIVATE USE TWO;0e-2;0mU2dSET TRANSMIT STATE;0rTSdCANCEL CHARACTER;0pCH
dMESSAGE WAITING;0oWcSPA;0cTART OF GUARDED AREA;0mPROTECTED AREAxEND OF GUARDED AREA
;0mPROTECTED AREA;0uPAdSOS;0cTART OF STRINGoGC;0cINGLE GRAPHIC CHARACTER INTRODUCERzjCI
;0cINGLE CHARACTER INTRODUCERzcCONTROL SEQUENCE INTRODUCER;0zbSIdST;0aRING TERMINATOR
rOPERATING SYSTEM COMMAND;0xSCdPM;0bRIVACY MESSAGEpAPC;0bPLICATION PROGRAM COMMANDzcNBSP;13eSHY
;245dLATIN CAPITAL LETTER GHAsSMALL LETTER GHA;428wCGJ;717dALM
;237dSYRIAC SUBLINEAR COLON SKEWED LEFT;1493zjKANNADA LETTER LLLA;447tLAO LETTER FO FON;2cAY;4gRO
;2cLO;299nTIBETAN MARK BKA- SHOG GI MGO RGYAN;540zkHANGUL JONGSEONG YESIEUNG-KIYEOKgSSANGKIYEOK
uSSANGYESIEUNGnYESIEUNG-KHIEUKH;1564ziFVS1b2b3eMVSdFVS4;2044eZWSPcNJcJdLRMdRLM;27dLREdRLEdPDFdLRO
dRLOdNNBSP;48fMMSPeWJ;6cLRIdRLIdFSIdPDI;175dWEIERSTRASS ELLIPTIC FUNCTION;816zeMICR ON US SYMBOL
mDASH SYMBOL;1841qLEFTWARDS TRIANGLE-HEADED ARROW WITH DOUBLE VERTICAL STROKE
;2zzjRIGHTWARDS TRIANGLE-HEADED ARROW WITH DOUBLE VERTICAL STROKE
;29849zzkYI SYLLABLE ITERATION MARK;2649zbMYANMAR LETTER KHAMTI LLA;21394zaVS1b2b3b4b5b6b7b8b9b10
b1b2b3b4b5b6;9ePRESENTATION FORM FOR VERTICAL RIGHT WHITE LENTICULAR BRACKET;231zzlBOM
;0cYTE ORDER MARK;0pZWNBSP;9173gCUNEIFORM SIGN NU11 TENUeOVER NU11 BUR OVER BUR
;19329zrMEDEFAIDRIN CAPITAL LETTER HbNG;31rSMALL LETTER HbNG;16778zcHENTAIGANA LETTER E-1
;8388vBYZANTINE MUSICAL SYMBOL FTHORA SKLIRON CHROMA VASIS;798779zzcVS17b8b9c20b1b2b3b4b5b6b7b8b9
c30b1b2b3b4b5b6b7b8b9c40b1b2b3b4b5b6b7b8b9c50b1b2b3b4b5b6b7b8b9c60b1b2b3b4b5b6b7b8b9c70b1b2b3b4b5
b6b7b8b9c80b1b2b3b4b5b6b7b8b9c90b1b2b3b4b5b6b7b8b9c100b1b2b3b4b5b6b7b8b9c10b1b2b3b4b5b6b7b8b9c20b1
b2b3b4b5b6b7b8b9c30b1b2b3b4b5b6b7b8b9c40b1b2b3b4b5b6b7b8b9c50b1b2b3b4b5b6b7b8b9c60b1b2b3b4b5b6b7b8
b9c70b1b2b3b4b5b6b7b8b9c80b1b2b3b4b5b6b7b8b9c90b1b2b3b4b5b6b7b8b9d200b1b2b3b4b5b6b7b8b9c10b1b2b3b4
b5b6b7b8b9c20b1b2b3b4b5b6b7b8b9c30b1b2b3b4b5b6b7b8b9c40b1b2b3b4b5b6b7b8b9c50b1b2b3b4b5b6"

end CharName
end Text
end AnswerKey
