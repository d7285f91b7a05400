import Signpost.Json
import Signpost.Table
import Signpost.Text.Blank
set_option autoImplicit false

/-!
# Character references

A character may be written by its name or its number, between an ampersand and a semicolon.
`reference?` reads one.  A number that belongs to no character that may be shown stands for the
replacement character.
-/

namespace Signpost.Markdown

open Text

/-- The names, and the code points in hexadecimal that they stand for. -/
def entityNames : String :=
  "Aacute C1, aacute E1, Abreve 102, abreve 103, ac mstpos 223E, acd 223F, acE 223E+333, Acirc C2,
acirc E2, acute DiacriticalAcute B4, Acy 410, acy 430, AElig C6, aelig E6, af ApplyFunction 2061,
Afr 1D504, afr 1D51E, Agrave C0, agrave E0, alefsym aleph 2135, Alpha 391, alpha 3B1, Amacr 100,
amacr 101, amalg 2A3F, AMP amp 26, And 2A53, and wedge 2227, andand 2A55, andd 2A5C, andslope
2A58, andv 2A5A, ang angle 2220, ange 29A4, angmsd measuredangle 2221, angmsdaa 29A8, angmsdab
29A9, angmsdac 29AA, angmsdad 29AB, angmsdae 29AC, angmsdaf 29AD, angmsdag 29AE, angmsdah 29AF,
angrt 221F, angrtvb 22BE, angrtvbd 299D, angsph 2222, angst Aring C5, angzarr 237C, Aogon 104,
aogon 105, Aopf 1D538, aopf 1D552, ap approx asymp thickapprox thkap TildeTilde 2248, apacir
2A6F, apE 2A70, ape approxeq 224A, apid 224B, apos 27, aring E5, Ascr 1D49C, ascr 1D4B6, Assign
colone coloneq 2254, ast midast 2A, asympeq CupCap 224D, Atilde C3, atilde E3, Auml C4, auml E4,
awconint CounterClockwiseContourIntegral 2233, awint 2A11, backcong bcong 224C, backepsilon bepsi
3F6, backprime bprime 2035, backsim bsim 223D, backsimeq bsime 22CD, Backslash setminus setmn
smallsetminus ssetmn 2216, Barv 2AE7, barvee 22BD, Barwed doublebarwedge 2306, barwed barwedge
2305, bbrk UnderBracket 23B5, bbrktbrk 23B6, Bcy 411, bcy 431, bdquo ldquor 201E, becaus Because
because 2235, bemptyv 29B0, bernou Bernoullis Bscr 212C, Beta 392, beta 3B2, beth 2136, between
twixt 226C, Bfr 1D505, bfr 1D51F, bigcap Intersection xcap 22C2, bigcirc xcirc 25EF, bigcup Union
xcup 22C3, bigodot xodot 2A00, bigoplus xoplus 2A01, bigotimes xotime 2A02, bigsqcup xsqcup 2A06,
bigstar starf 2605, bigtriangledown xdtri 25BD, bigtriangleup xutri 25B3, biguplus xuplus 2A04,
bigvee Vee xvee 22C1, bigwedge Wedge xwedge 22C0, bkarow rbarr 290D, blacklozenge lozf 29EB,
blacksquare FilledVerySmallSquare squarf squf 25AA, blacktriangle utrif 25B4, blacktriangledown
dtrif 25BE, blacktriangleleft ltrif 25C2, blacktriangleright rtrif 25B8, blank 2423, blk12 2592,
blk14 2591, blk34 2593, block 2588, bne 3D+20E5, bnequiv 2261+20E5, bNot 2AED, bnot 2310, Bopf
1D539, bopf 1D553, bot bottom perp UpTee 22A5, bowtie 22C8, boxbox 29C9, boxDL 2557, boxDl 2556,
boxdL 2555, boxdl 2510, boxDR 2554, boxDr 2553, boxdR 2552, boxdr 250C, boxH 2550, boxh
HorizontalLine 2500, boxHD 2566, boxHd 2564, boxhD 2565, boxhd 252C, boxHU 2569, boxHu 2567,
boxhU 2568, boxhu 2534, boxminus minusb 229F, boxplus plusb 229E, boxtimes timesb 22A0, boxUL
255D, boxUl 255C, boxuL 255B, boxul 2518, boxUR 255A, boxUr 2559, boxuR 2558, boxur 2514, boxV
2551, boxv 2502, boxVH 256C, boxVh 256B, boxvH 256A, boxvh 253C, boxVL 2563, boxVl 2562, boxvL
2561, boxvl 2524, boxVR 2560, boxVr 255F, boxvR 255E, boxvr 251C, Breve breve 2D8, brvbar A6,
bscr 1D4B7, bsemi 204F, bsol 5C, bsolb 29C5, bsolhsub 27C8, bull bullet 2022, bump Bumpeq
HumpDownHump 224E, bumpE 2AAE, bumpe bumpeq HumpEqual 224F, Cacute 106, cacute 107, Cap 22D2, cap
2229, capand 2A44, capbrcup 2A49, capcap 2A4B, capcup 2A47, capdot 2A40, CapitalDifferentialD DD
2145, caps 2229+FE00, caret 2041, caron Hacek 2C7, Cayleys Cfr 212D, ccaps 2A4D, Ccaron 10C,
ccaron 10D, Ccedil C7, ccedil E7, Ccirc 108, ccirc 109, Cconint 2230, ccups 2A4C, ccupssm 2A50,
Cdot 10A, cdot 10B, cedil Cedilla B8, cemptyv 29B2, cent A2, CenterDot centerdot middot B7, cfr
1D520, CHcy 427, chcy 447, check checkmark 2713, Chi 3A7, chi 3C7, cir 25CB, circ 2C6, circeq
cire 2257, circlearrowleft olarr 21BA, circlearrowright orarr 21BB, circledast oast 229B,
circledcirc ocir 229A, circleddash odash 229D, CircleDot odot 2299, circledR REG reg AE, circledS
oS 24C8, CircleMinus ominus 2296, CirclePlus oplus 2295, CircleTimes otimes 2297, cirE 29C3,
cirfnint 2A10, cirmid 2AEF, cirscir 29C2, ClockwiseContourIntegral cwconint 2232,
CloseCurlyDoubleQuote rdquo rdquor 201D, CloseCurlyQuote rsquo rsquor 2019, clubs clubsuit 2663,
Colon Proportion 2237, colon 3A, Colone 2A74, comma 2C, commat 40, comp complement 2201, compfn
SmallCircle 2218, complexes Copf 2102, cong TildeFullEqual 2245, congdot 2A6D, Congruent equiv
2261, Conint DoubleContourIntegral 222F, conint ContourIntegral oint 222E, copf 1D554, coprod
Coproduct 2210, COPY copy A9, copysr 2117, crarr 21B5, Cross 2A2F, cross 2717, Cscr 1D49E, cscr
1D4B8, csub 2ACF, csube 2AD1, csup 2AD0, csupe 2AD2, ctdot 22EF, cudarrl 2938, cudarrr 2935,
cuepr curlyeqprec 22DE, cuesc curlyeqsucc 22DF, cularr curvearrowleft 21B6, cularrp 293D, Cup
22D3, cup 222A, cupbrcap 2A48, cupcap 2A46, cupcup 2A4A, cupdot 228D, cupor 2A45, cups 222A+FE00,
curarr curvearrowright 21B7, curarrm 293C, curlyvee cuvee 22CE, curlywedge cuwed 22CF, curren A4,
cwint 2231, cylcty 232D, Dagger ddagger 2021, dagger 2020, daleth 2138, Darr 21A1, dArr
DoubleDownArrow Downarrow 21D3, darr DownArrow downarrow ShortDownArrow 2193, dash hyphen 2010,
Dashv DoubleLeftTee 2AE4, dashv LeftTee 22A3, dbkarow rBarr 290F, dblac DiacriticalDoubleAcute
2DD, Dcaron 10E, dcaron 10F, Dcy 414, dcy 434, dd DifferentialD 2146, ddarr downdownarrows 21CA,
DDotrahd 2911, ddotseq eDDot 2A77, deg B0, Del nabla 2207, Delta 394, delta 3B4, demptyv 29B1,
dfisht 297F, Dfr 1D507, dfr 1D521, dHar 2965, dharl downharpoonleft LeftDownVector 21C3, dharr
downharpoonright RightDownVector 21C2, DiacriticalDot dot 2D9, DiacriticalGrave grave 60,
DiacriticalTilde tilde 2DC, diam Diamond diamond 22C4, diamondsuit diams 2666, die Dot DoubleDot
uml A8, digamma gammad 3DD, disin 22F2, div divide F7, divideontimes divonx 22C7, DJcy 402, djcy
452, dlcorn llcorner 231E, dlcrop 230D, dollar 24, Dopf 1D53B, dopf 1D555, DotDot 20DC, doteq
DotEqual esdot 2250, doteqdot eDot 2251, dotminus minusd 2238, dotplus plusdo 2214, dotsquare
sdotb 22A1, DoubleLeftArrow lArr Leftarrow 21D0, DoubleLeftRightArrow hArr iff Leftrightarrow
21D4, DoubleLongLeftArrow Longleftarrow xlArr 27F8, DoubleLongLeftRightArrow Longleftrightarrow
xhArr 27FA, DoubleLongRightArrow Longrightarrow xrArr 27F9, DoubleRightArrow Implies rArr
Rightarrow 21D2, DoubleRightTee vDash 22A8, DoubleUpArrow uArr Uparrow 21D1, DoubleUpDownArrow
Updownarrow vArr 21D5, DoubleVerticalBar par parallel shortparallel spar 2225, DownArrowBar 2913,
DownArrowUpArrow duarr 21F5, DownBreve 311, DownLeftRightVector 2950, DownLeftTeeVector 295E,
DownLeftVector leftharpoondown lhard 21BD, DownLeftVectorBar 2956, DownRightTeeVector 295F,
DownRightVector rhard rightharpoondown 21C1, DownRightVectorBar 2957, DownTee top 22A4,
DownTeeArrow mapstodown 21A7, drbkarow RBarr 2910, drcorn lrcorner 231F, drcrop 230C, Dscr 1D49F,
dscr 1D4B9, DScy 405, dscy 455, dsol 29F6, Dstrok 110, dstrok 111, dtdot 22F1, dtri triangledown
25BF, duhar ReverseUpEquilibrium 296F, dwangle 29A6, DZcy 40F, dzcy 45F, dzigrarr 27FF, Eacute
C9, eacute E9, easter 2A6E, Ecaron 11A, ecaron 11B, ecir eqcirc 2256, Ecirc CA, ecirc EA, ecolon
eqcolon 2255, Ecy 42D, ecy 44D, Edot 116, edot 117, ee ExponentialE exponentiale 2147, efDot
fallingdotseq 2252, Efr 1D508, efr 1D522, eg 2A9A, Egrave C8, egrave E8, egs eqslantgtr 2A96,
egsdot 2A98, el 2A99, Element in isin isinv 2208, elinters 23E7, ell 2113, els eqslantless 2A95,
elsdot 2A97, Emacr 112, emacr 113, empty emptyset emptyv varnothing 2205, EmptySmallSquare 25FB,
EmptyVerySmallSquare 25AB, emsp 2003, emsp13 2004, emsp14 2005, ENG 14A, eng 14B, ensp 2002,
Eogon 118, eogon 119, Eopf 1D53C, eopf 1D556, epar 22D5, eparsl 29E3, eplus 2A71, epsi epsilon
3B5, Epsilon 395, epsiv straightepsilon varepsilon 3F5, eqsim EqualTilde esim 2242, Equal 2A75,
equals 3D, equest questeq 225F, Equilibrium rightleftharpoons rlhar 21CC, equivDD 2A78, eqvparsl
29E5, erarr 2971, erDot risingdotseq 2253, Escr expectation 2130, escr 212F, Esim 2A73, Eta 397,
eta 3B7, ETH D0, eth F0, Euml CB, euml EB, euro 20AC, excl 21, exist Exists 2203, Fcy 424, fcy
444, female 2640, ffilig FB03, fflig FB00, ffllig FB04, Ffr 1D509, ffr 1D523, filig FB01,
FilledSmallSquare 25FC, fjlig 66+6A, flat 266D, fllig FB02, fltns 25B1, fnof 192, Fopf 1D53D,
fopf 1D557, ForAll forall 2200, fork pitchfork 22D4, forkv 2AD9, Fouriertrf Fscr 2131, fpartint
2A0D, frac12 half BD, frac13 2153, frac14 BC, frac15 2155, frac16 2159, frac18 215B, frac23 2154,
frac25 2156, frac34 BE, frac35 2157, frac38 215C, frac45 2158, frac56 215A, frac58 215D, frac78
215E, frasl 2044, frown sfrown 2322, fscr 1D4BB, gacute 1F5, Gamma 393, gamma 3B3, Gammad 3DC,
gap gtrapprox 2A86, Gbreve 11E, gbreve 11F, Gcedil 122, Gcirc 11C, gcirc 11D, Gcy 413, gcy 433,
Gdot 120, gdot 121, gE geqq GreaterFullEqual 2267, ge geq GreaterEqual 2265, gEl gtreqqless 2A8C,
gel GreaterEqualLess gtreqless 22DB, geqslant ges GreaterSlantEqual 2A7E, gescc 2AA9, gesdot
2A80, gesdoto 2A82, gesdotol 2A84, gesl 22DB+FE00, gesles 2A94, Gfr 1D50A, gfr 1D524, Gg ggg
22D9, gg Gt NestedGreaterGreater 226B, gimel 2137, GJcy 403, gjcy 453, gl GreaterLess gtrless
2277, gla 2AA5, glE 2A92, glj 2AA4, gnap gnapprox 2A8A, gnE gneqq 2269, gne gneq 2A88, gnsim
22E7, Gopf 1D53E, gopf 1D558, GreaterGreater 2AA2, GreaterTilde gsim gtrsim 2273, Gscr 1D4A2,
gscr 210A, gsime 2A8E, gsiml 2A90, GT gt 3E, gtcc 2AA7, gtcir 2A7A, gtdot gtrdot 22D7, gtlPar
2995, gtquest 2A7C, gtrarr 2978, gvertneqq gvnE 2269+FE00, hairsp VeryThinSpace 200A, hamilt
HilbertSpace Hscr 210B, HARDcy 42A, hardcy 44A, harr LeftRightArrow leftrightarrow 2194, harrcir
2948, harrw leftrightsquigarrow 21AD, Hat 5E, hbar hslash planck plankv 210F, Hcirc 124, hcirc
125, hearts heartsuit 2665, hellip mldr 2026, hercon 22B9, Hfr Poincareplane 210C, hfr 1D525,
hksearow searhk 2925, hkswarow swarhk 2926, hoarr 21FF, homtht 223B, hookleftarrow larrhk 21A9,
hookrightarrow rarrhk 21AA, Hopf quaternions 210D, hopf 1D559, horbar 2015, hscr 1D4BD, Hstrok
126, hstrok 127, hybull 2043, Iacute CD, iacute ED, ic InvisibleComma 2063, Icirc CE, icirc EE,
Icy 418, icy 438, Idot 130, IEcy 415, iecy 435, iexcl A1, Ifr Im image imagpart 2111, ifr 1D526,
Igrave CC, igrave EC, ii ImaginaryI 2148, iiiint qint 2A0C, iiint tint 222D, iinfin 29DC, iiota
2129, IJlig 132, ijlig 133, Imacr 12A, imacr 12B, imagline Iscr 2110, imath inodot 131, imof
22B7, imped 1B5, incare 2105, infin 221E, infintie 29DD, Int 222C, int Integral 222B, intcal
intercal 22BA, integers Zopf 2124, intlarhk 2A17, intprod iprod 2A3C, InvisibleTimes it 2062,
IOcy 401, iocy 451, Iogon 12E, iogon 12F, Iopf 1D540, iopf 1D55A, Iota 399, iota 3B9, iquest BF,
iscr 1D4BE, isindot 22F5, isinE 22F9, isins 22F4, isinsv 22F3, Itilde 128, itilde 129, Iukcy 406,
iukcy 456, Iuml CF, iuml EF, Jcirc 134, jcirc 135, Jcy 419, jcy 439, Jfr 1D50D, jfr 1D527, jmath
237, Jopf 1D541, jopf 1D55B, Jscr 1D4A5, jscr 1D4BF, Jsercy 408, jsercy 458, Jukcy 404, jukcy
454, Kappa 39A, kappa 3BA, kappav varkappa 3F0, Kcedil 136, kcedil 137, Kcy 41A, kcy 43A, Kfr
1D50E, kfr 1D528, kgreen 138, KHcy 425, khcy 445, KJcy 40C, kjcy 45C, Kopf 1D542, kopf 1D55C,
Kscr 1D4A6, kscr 1D4C0, lAarr Lleftarrow 21DA, Lacute 139, lacute 13A, laemptyv 29B4, lagran
Laplacetrf Lscr 2112, Lambda 39B, lambda 3BB, Lang 27EA, lang langle LeftAngleBracket 27E8, langd
2991, lap lessapprox 2A85, laquo AB, Larr twoheadleftarrow 219E, larr LeftArrow leftarrow
ShortLeftArrow slarr 2190, larrb LeftArrowBar 21E4, larrbfs 291F, larrfs 291D, larrlp
looparrowleft 21AB, larrpl 2939, larrsim 2973, larrtl leftarrowtail 21A2, lat 2AAB, lAtail 291B,
latail 2919, late 2AAD, lates 2AAD+FE00, lBarr 290E, lbarr 290C, lbbrk 2772, lbrace lcub 7B,
lbrack lsqb 5B, lbrke 298B, lbrksld 298F, lbrkslu 298D, Lcaron 13D, lcaron 13E, Lcedil 13B,
lcedil 13C, lceil LeftCeiling 2308, Lcy 41B, lcy 43B, ldca 2936, ldquo OpenCurlyDoubleQuote 201C,
ldrdhar 2967, ldrushar 294B, ldsh 21B2, lE leqq LessFullEqual 2266, le leq 2264,
LeftArrowRightArrow leftrightarrows lrarr 21C6, LeftDoubleBracket lobrk 27E6, LeftDownTeeVector
2961, LeftDownVectorBar 2959, LeftFloor lfloor 230A, leftharpoonup LeftVector lharu 21BC,
leftleftarrows llarr 21C7, leftrightharpoons lrhar ReverseEquilibrium 21CB, LeftRightVector 294E,
LeftTeeArrow mapstoleft 21A4, LeftTeeVector 295A, leftthreetimes lthree 22CB, LeftTriangle
vartriangleleft vltri 22B2, LeftTriangleBar 29CF, LeftTriangleEqual ltrie trianglelefteq 22B4,
LeftUpDownVector 2951, LeftUpTeeVector 2960, LeftUpVector uharl upharpoonleft 21BF,
LeftUpVectorBar 2958, LeftVectorBar 2952, lEg lesseqqgtr 2A8B, leg lesseqgtr LessEqualGreater
22DA, leqslant les LessSlantEqual 2A7D, lescc 2AA8, lesdot 2A7F, lesdoto 2A81, lesdotor 2A83,
lesg 22DA+FE00, lesges 2A93, lessdot ltdot 22D6, LessGreater lessgtr lg 2276, LessLess 2AA1,
lesssim LessTilde lsim 2272, lfisht 297C, Lfr 1D50F, lfr 1D529, lgE 2A91, lHar 2962, lharul 296A,
lhblk 2584, LJcy 409, ljcy 459, Ll 22D8, ll Lt NestedLessLess 226A, llhard 296B, lltri 25FA,
Lmidot 13F, lmidot 140, lmoust lmoustache 23B0, lnap lnapprox 2A89, lnE lneqq 2268, lne lneq
2A87, lnsim 22E6, loang 27EC, loarr 21FD, LongLeftArrow longleftarrow xlarr 27F5,
LongLeftRightArrow longleftrightarrow xharr 27F7, longmapsto xmap 27FC, LongRightArrow
longrightarrow xrarr 27F6, looparrowright rarrlp 21AC, lopar 2985, Lopf 1D543, lopf 1D55D, loplus
2A2D, lotimes 2A34, lowast 2217, lowbar UnderBar 5F, LowerLeftArrow swarr swarrow 2199,
LowerRightArrow searr searrow 2198, loz lozenge 25CA, lpar 28, lparlt 2993, lrhard 296D, lrm
200E, lrtri 22BF, lsaquo 2039, lscr 1D4C1, Lsh lsh 21B0, lsime 2A8D, lsimg 2A8F, lsquo
OpenCurlyQuote 2018, lsquor sbquo 201A, Lstrok 141, lstrok 142, LT lt 3C, ltcc 2AA6, ltcir 2A79,
ltimes 22C9, ltlarr 2976, ltquest 2A7B, ltri triangleleft 25C3, ltrPar 2996, lurdshar 294A,
luruhar 2966, lvertneqq lvnE 2268+FE00, macr strns AF, male 2642, malt maltese 2720, Map 2905,
map mapsto RightTeeArrow 21A6, mapstoup UpTeeArrow 21A5, marker 25AE, mcomma 2A29, Mcy 41C, mcy
43C, mdash 2014, mDDot 223A, MediumSpace 205F, Mellintrf Mscr phmmat 2133, Mfr 1D510, mfr 1D52A,
mho 2127, micro B5, mid shortmid smid VerticalBar 2223, midcir 2AF0, minus 2212, minusdu 2A2A,
MinusPlus mnplus mp 2213, mlcp 2ADB, models 22A7, Mopf 1D544, mopf 1D55E, mscr 1D4C2, Mu 39C, mu
3BC, multimap mumap 22B8, Nacute 143, nacute 144, nang 2220+20D2, nap napprox NotTildeTilde 2249,
napE 2A70+338, napid 224B+338, napos 149, natur natural 266E, naturals Nopf 2115, nbsp
NonBreakingSpace A0, nbump NotHumpDownHump 224E+338, nbumpe NotHumpEqual 224F+338, ncap 2A43,
Ncaron 147, ncaron 148, Ncedil 145, ncedil 146, ncong NotTildeFullEqual 2247, ncongdot 2A6D+338,
ncup 2A42, Ncy 41D, ncy 43D, ndash 2013, ne NotEqual 2260, nearhk 2924, neArr 21D7, nearr nearrow
UpperRightArrow 2197, nedot 2250+338, NegativeMediumSpace NegativeThickSpace NegativeThinSpace
NegativeVeryThinSpace ZeroWidthSpace 200B, nequiv NotCongruent 2262, nesear toea 2928, nesim
NotEqualTilde 2242+338, NewLine A, nexist nexists NotExists 2204, Nfr 1D511, nfr 1D52B, ngE ngeqq
NotGreaterFullEqual 2267+338, nge ngeq NotGreaterEqual 2271, ngeqslant nges NotGreaterSlantEqual
2A7E+338, nGg 22D9+338, ngsim NotGreaterTilde 2275, nGt 226B+20D2, ngt ngtr NotGreater 226F, nGtv
NotGreaterGreater 226B+338, nhArr nLeftrightarrow 21CE, nharr nleftrightarrow 21AE, nhpar 2AF2,
ni niv ReverseElement SuchThat 220B, nis 22FC, nisd 22FA, NJcy 40A, njcy 45A, nlArr nLeftarrow
21CD, nlarr nleftarrow 219A, nldr 2025, nlE nleqq 2266+338, nle nleq NotLessEqual 2270, nleqslant
nles NotLessSlantEqual 2A7D+338, nless nlt NotLess 226E, nLl 22D8+338, nlsim NotLessTilde 2274,
nLt 226A+20D2, nltri NotLeftTriangle ntriangleleft 22EA, nltrie NotLeftTriangleEqual
ntrianglelefteq 22EC, nLtv NotLessLess 226A+338, nmid NotVerticalBar nshortmid nsmid 2224,
NoBreak 2060, nopf 1D55F, Not 2AEC, not AC, NotCupCap 226D, NotDoubleVerticalBar npar nparallel
nshortparallel nspar 2226, NotElement notin notinva 2209, NotGreaterLess ntgl 2279, notindot
22F5+338, notinE 22F9+338, notinvb 22F7, notinvc 22F6, NotLeftTriangleBar 29CF+338,
NotLessGreater ntlg 2278, NotNestedGreaterGreater 2AA2+338, NotNestedLessLess 2AA1+338, notni
notniva NotReverseElement 220C, notnivb 22FE, notnivc 22FD, NotPrecedes npr nprec 2280,
NotPrecedesEqual npre npreceq 2AAF+338, NotPrecedesSlantEqual nprcue 22E0, NotRightTriangle nrtri
ntriangleright 22EB, NotRightTriangleBar 29D0+338, NotRightTriangleEqual nrtrie ntrianglerighteq
22ED, NotSquareSubset 228F+338, NotSquareSubsetEqual nsqsube 22E2, NotSquareSuperset 2290+338,
NotSquareSupersetEqual nsqsupe 22E3, NotSubset nsubset vnsub 2282+20D2, NotSubsetEqual nsube
nsubseteq 2288, NotSucceeds nsc nsucc 2281, NotSucceedsEqual nsce nsucceq 2AB0+338,
NotSucceedsSlantEqual nsccue 22E1, NotSucceedsTilde 227F+338, NotSuperset nsupset vnsup
2283+20D2, NotSupersetEqual nsupe nsupseteq 2289, NotTilde nsim 2241, NotTildeEqual nsime nsimeq
2244, nparsl 2AFD+20E5, npart 2202+338, npolint 2A14, nrArr nRightarrow 21CF, nrarr nrightarrow
219B, nrarrc 2933+338, nrarrw 219D+338, Nscr 1D4A9, nscr 1D4C3, nsub 2284, nsubE nsubseteqq
2AC5+338, nsup 2285, nsupE nsupseteqq 2AC6+338, Ntilde D1, ntilde F1, Nu 39D, nu 3BD, num 23,
numero 2116, numsp 2007, nvap 224D+20D2, nVDash 22AF, nVdash 22AE, nvDash 22AD, nvdash 22AC, nvge
2265+20D2, nvgt 3E+20D2, nvHarr 2904, nvinfin 29DE, nvlArr 2902, nvle 2264+20D2, nvlt 3C+20D2,
nvltrie 22B4+20D2, nvrArr 2903, nvrtrie 22B5+20D2, nvsim 223C+20D2, nwarhk 2923, nwArr 21D6,
nwarr nwarrow UpperLeftArrow 2196, nwnear 2927, Oacute D3, oacute F3, Ocirc D4, ocirc F4, Ocy
41E, ocy 43E, Odblac 150, odblac 151, odiv 2A38, odsold 29BC, OElig 152, oelig 153, ofcir 29BF,
Ofr 1D512, ofr 1D52C, ogon 2DB, Ograve D2, ograve F2, ogt 29C1, ohbar 29B5, ohm Omega 3A9, olcir
29BE, olcross 29BB, oline OverBar 203E, olt 29C0, Omacr 14C, omacr 14D, omega 3C9, Omicron 39F,
omicron 3BF, omid 29B6, Oopf 1D546, oopf 1D560, opar 29B7, operp 29B9, Or 2A54, or vee 2228, ord
2A5D, order orderof oscr 2134, ordf AA, ordm BA, origof 22B6, oror 2A56, orslope 2A57, orv 2A5B,
Oscr 1D4AA, Oslash D8, oslash F8, osol 2298, Otilde D5, otilde F5, Otimes 2A37, otimesas 2A36,
Ouml D6, ouml F6, ovbar 233D, OverBrace 23DE, OverBracket tbrk 23B4, OverParenthesis 23DC, para
B6, parsim 2AF3, parsl 2AFD, part PartialD 2202, Pcy 41F, pcy 43F, percnt 25, period 2E, permil
2030, pertenk 2031, Pfr 1D513, pfr 1D52D, Phi 3A6, phi 3C6, phiv straightphi varphi 3D5, phone
260E, Pi 3A0, pi 3C0, piv varpi 3D6, planckh 210E, plus 2B, plusacir 2A23, pluscir 2A22, plusdu
2A25, pluse 2A72, PlusMinus plusmn pm B1, plussim 2A26, plustwo 2A27, pointint 2A15, Popf primes
2119, popf 1D561, pound A3, Pr 2ABB, pr prec Precedes 227A, prap precapprox 2AB7, prcue
preccurlyeq PrecedesSlantEqual 227C, prE 2AB3, pre PrecedesEqual preceq 2AAF, PrecedesTilde
precsim prsim 227E, precnapprox prnap 2AB9, precneqq prnE 2AB5, precnsim prnsim 22E8, Prime 2033,
prime 2032, prod Product 220F, profalar 232E, profline 2312, profsurf 2313, prop Proportional
propto varpropto vprop 221D, prurel 22B0, Pscr 1D4AB, pscr 1D4C5, Psi 3A8, psi 3C8, puncsp 2008,
Qfr 1D514, qfr 1D52E, Qopf rationals 211A, qopf 1D562, qprime 2057, Qscr 1D4AC, qscr 1D4C6,
quatint 2A16, quest 3F, QUOT quot 22, rAarr Rrightarrow 21DB, race 223D+331, Racute 154, racute
155, radic Sqrt 221A, raemptyv 29B3, Rang 27EB, rang rangle RightAngleBracket 27E9, rangd 2992,
range 29A5, raquo BB, Rarr twoheadrightarrow 21A0, rarr RightArrow rightarrow ShortRightArrow
srarr 2192, rarrap 2975, rarrb RightArrowBar 21E5, rarrbfs 2920, rarrc 2933, rarrfs 291E, rarrpl
2945, rarrsim 2974, Rarrtl 2916, rarrtl rightarrowtail 21A3, rarrw rightsquigarrow 219D, rAtail
291C, ratail 291A, ratio 2236, rbbrk 2773, rbrace rcub 7D, rbrack rsqb 5D, rbrke 298C, rbrksld
298E, rbrkslu 2990, Rcaron 158, rcaron 159, Rcedil 156, rcedil 157, rceil RightCeiling 2309, Rcy
420, rcy 440, rdca 2937, rdldhar 2969, rdsh 21B3, Re real realpart Rfr 211C, realine Rscr 211B,
reals Ropf 211D, rect 25AD, rfisht 297D, rfloor RightFloor 230B, rfr 1D52F, rHar 2964, rharu
rightharpoonup RightVector 21C0, rharul 296C, Rho 3A1, rho 3C1, rhov varrho 3F1,
RightArrowLeftArrow rightleftarrows rlarr 21C4, RightDoubleBracket robrk 27E7, RightDownTeeVector
295D, RightDownVectorBar 2955, rightrightarrows rrarr 21C9, RightTee vdash 22A2, RightTeeVector
295B, rightthreetimes rthree 22CC, RightTriangle vartriangleright vrtri 22B3, RightTriangleBar
29D0, RightTriangleEqual rtrie trianglerighteq 22B5, RightUpDownVector 294F, RightUpTeeVector
295C, RightUpVector uharr upharpoonright 21BE, RightUpVectorBar 2954, RightVectorBar 2953, ring
2DA, rlm 200F, rmoust rmoustache 23B1, rnmid 2AEE, roang 27ED, roarr 21FE, ropar 2986, ropf
1D563, roplus 2A2E, rotimes 2A35, RoundImplies 2970, rpar 29, rpargt 2994, rppolint 2A12, rsaquo
203A, rscr 1D4C7, Rsh rsh 21B1, rtimes 22CA, rtri triangleright 25B9, rtriltri 29CE, RuleDelayed
29F4, ruluhar 2968, rx 211E, Sacute 15A, sacute 15B, Sc 2ABC, sc succ Succeeds 227B, scap
succapprox 2AB8, Scaron 160, scaron 161, sccue succcurlyeq SucceedsSlantEqual 227D, scE 2AB4, sce
SucceedsEqual succeq 2AB0, Scedil 15E, scedil 15F, Scirc 15C, scirc 15D, scnap succnapprox 2ABA,
scnE succneqq 2AB6, scnsim succnsim 22E9, scpolint 2A13, scsim SucceedsTilde succsim 227F, Scy
421, scy 441, sdot 22C5, sdote 2A66, seArr 21D8, sect A7, semi 3B, seswar tosa 2929, sext 2736,
Sfr 1D516, sfr 1D530, sharp 266F, SHCHcy 429, shchcy 449, SHcy 428, shcy 448, ShortUpArrow uarr
UpArrow uparrow 2191, shy AD, Sigma 3A3, sigma 3C3, sigmaf sigmav varsigma 3C2, sim thicksim
thksim Tilde 223C, simdot 2A6A, sime simeq TildeEqual 2243, simg 2A9E, simgE 2AA0, siml 2A9D,
simlE 2A9F, simne 2246, simplus 2A24, simrarr 2972, smashp 2A33, smeparsl 29E4, smile ssmile
2323, smt 2AAA, smte 2AAC, smtes 2AAC+FE00, SOFTcy 42C, softcy 44C, sol 2F, solb 29C4, solbar
233F, Sopf 1D54A, sopf 1D564, spades spadesuit 2660, sqcap SquareIntersection 2293, sqcaps
2293+FE00, sqcup SquareUnion 2294, sqcups 2294+FE00, sqsub sqsubset SquareSubset 228F, sqsube
sqsubseteq SquareSubsetEqual 2291, sqsup sqsupset SquareSuperset 2290, sqsupe sqsupseteq
SquareSupersetEqual 2292, squ Square square 25A1, Sscr 1D4AE, sscr 1D4C8, sstarf Star 22C6, star
2606, Sub Subset 22D0, sub subset 2282, subdot 2ABD, subE subseteqq 2AC5, sube subseteq
SubsetEqual 2286, subedot 2AC3, submult 2AC1, subnE subsetneqq 2ACB, subne subsetneq 228A,
subplus 2ABF, subrarr 2979, subsim 2AC7, subsub 2AD5, subsup 2AD3, Sum sum 2211, sung 266A, Sup
Supset 22D1, sup Superset supset 2283, sup1 B9, sup2 B2, sup3 B3, supdot 2ABE, supdsub 2AD8, supE
supseteqq 2AC6, supe SupersetEqual supseteq 2287, supedot 2AC4, suphsol 27C9, suphsub 2AD7,
suplarr 297B, supmult 2AC2, supnE supsetneqq 2ACC, supne supsetneq 228B, supplus 2AC0, supsim
2AC8, supsub 2AD4, supsup 2AD6, swArr 21D9, swnwar 292A, szlig DF, Tab 9, target 2316, Tau 3A4,
tau 3C4, Tcaron 164, tcaron 165, Tcedil 162, tcedil 163, Tcy 422, tcy 442, tdot TripleDot 20DB,
telrec 2315, Tfr 1D517, tfr 1D531, there4 Therefore therefore 2234, Theta 398, theta 3B8,
thetasym thetav vartheta 3D1, ThickSpace 205F+200A, thinsp ThinSpace 2009, THORN DE, thorn FE,
times D7, timesbar 2A31, timesd 2A30, topbot 2336, topcir 2AF1, Topf 1D54B, topf 1D565, topfork
2ADA, tprime 2034, TRADE trade 2122, triangle utri 25B5, triangleq trie 225C, tridot 25EC,
triminus 2A3A, triplus 2A39, trisb 29CD, tritime 2A3B, trpezium 23E2, Tscr 1D4AF, tscr 1D4C9,
TScy 426, tscy 446, TSHcy 40B, tshcy 45B, Tstrok 166, tstrok 167, Uacute DA, uacute FA, Uarr
219F, Uarrocir 2949, Ubrcy 40E, ubrcy 45E, Ubreve 16C, ubreve 16D, Ucirc DB, ucirc FB, Ucy 423,
ucy 443, udarr UpArrowDownArrow 21C5, Udblac 170, udblac 171, udhar UpEquilibrium 296E, ufisht
297E, Ufr 1D518, ufr 1D532, Ugrave D9, ugrave F9, uHar 2963, uhblk 2580, ulcorn ulcorner 231C,
ulcrop 230F, ultri 25F8, Umacr 16A, umacr 16B, UnderBrace 23DF, UnderParenthesis 23DD, UnionPlus
uplus 228E, Uogon 172, uogon 173, Uopf 1D54C, uopf 1D566, UpArrowBar 2912, UpDownArrow
updownarrow varr 2195, Upsi upsih 3D2, upsi upsilon 3C5, Upsilon 3A5, upuparrows uuarr 21C8,
urcorn urcorner 231D, urcrop 230E, Uring 16E, uring 16F, urtri 25F9, Uscr 1D4B0, uscr 1D4CA,
utdot 22F0, Utilde 168, utilde 169, Uuml DC, uuml FC, uwangle 29A7, vangrt 299C, varsubsetneq
vsubne 228A+FE00, varsubsetneqq vsubnE 2ACB+FE00, varsupsetneq vsupne 228B+FE00, varsupsetneqq
vsupnE 2ACC+FE00, Vbar 2AEB, vBar 2AE8, vBarv 2AE9, Vcy 412, vcy 432, VDash 22AB, Vdash 22A9,
Vdashl 2AE6, veebar 22BB, veeeq 225A, vellip 22EE, Verbar Vert 2016, verbar vert VerticalLine 7C,
VerticalSeparator 2758, VerticalTilde wr wreath 2240, Vfr 1D519, vfr 1D533, Vopf 1D54D, vopf
1D567, Vscr 1D4B1, vscr 1D4CB, Vvdash 22AA, vzigzag 299A, Wcirc 174, wcirc 175, wedbar 2A5F,
wedgeq 2259, weierp wp 2118, Wfr 1D51A, wfr 1D534, Wopf 1D54E, wopf 1D568, Wscr 1D4B2, wscr
1D4CC, Xfr 1D51B, xfr 1D535, Xi 39E, xi 3BE, xnis 22FB, Xopf 1D54F, xopf 1D569, Xscr 1D4B3, xscr
1D4CD, Yacute DD, yacute FD, YAcy 42F, yacy 44F, Ycirc 176, ycirc 177, Ycy 42B, ycy 44B, yen A5,
Yfr 1D51C, yfr 1D536, YIcy 407, yicy 457, Yopf 1D550, yopf 1D56A, Yscr 1D4B4, yscr 1D4CE, YUcy
42E, yucy 44E, Yuml 178, yuml FF, Zacute 179, zacute 17A, Zcaron 17D, zcaron 17E, Zcy 417, zcy
437, Zdot 17B, zdot 17C, zeetrf Zfr 2128, Zeta 396, zeta 3B6, zfr 1D537, ZHcy 416, zhcy 436,
zigrarr 21DD, zopf 1D56B, Zscr 1D4B5, zscr 1D4CF, zwj 200D, zwnj 200C"

/-- The number that hexadecimal digits write. -/
def hexNumber (digits : Text) : Nat :=
  digits.foldl (fun n c => n * 16 + (Json.hexValue? c).getD 0) 0

/-- The words of an entry of the table: names, and code points last. -/
def entityWords (entry : Text) : List Text :=
  (splitAtEach isBlank entry).filter fun w => !w.isEmpty

/-- The characters with a name. -/
def named? (name : Text) : Option Text :=
  ((splitAtEach (· == ',') entityNames.toList).map entityWords).findSome? fun words =>
    if words.dropLast.contains name then
      words.getLast?.map fun codes =>
        (splitAtEach (· == '+') codes).map fun code => Char.ofNat (hexNumber code)
    else none

/-- The character that stands for what cannot be shown. -/
def replacement : Char := Char.ofNat 0xFFFD

/-- Whether a number is that of a character which may be written by its number: no control character
but those for blanks, no half of a pair, and no code point that is kept free. -/
def isReferable (n : Nat) : Bool :=
  n ≤ 0x10FFFF && n % 0x10000 < 0xFFFE &&
    !inRanges [(0x0, 0x8), (0xB, 0xB), (0xE, 0x1F), (0x7F, 0x9F), (0xD800, 0xDFFF),
      (0xFDD0, 0xFDEF)] n

/-- The character with a number. -/
def numbered (n : Nat) : Char := if isReferable n then Char.ofNat n else replacement

/-- The digits at the start of a text, if there are between one and `most` of them and a semicolon
follows; and what follows the semicolon. -/
def closedDigits? (isDigit : Char → Bool) (most : Nat) (t : Text) : Option (Text × Text) :=
  let digits := t.takeWhile isDigit
  match t.dropWhile isDigit with
  | ';' :: rest => if 1 ≤ digits.length ∧ digits.length ≤ most then some (digits, rest) else none
  | _ => none

/-- Reads a reference from after its ampersand: the characters, and what follows it. -/
def reference? (t : Text) : Option (Text × Text) :=
  match t with
  | '#' :: x :: rest =>
    if x = 'x' ∨ x = 'X' then
      (closedDigits? (fun c => (Json.hexValue? c).isSome) 6 rest).map fun (digits, rest) =>
        ([numbered (hexNumber digits)], rest)
    else
      (closedDigits? Char.isDigit 7 (x :: rest)).map fun (digits, rest) =>
        ([numbered (digits.foldl (fun n c => n * 10 + (c.toNat - '0'.toNat)) 0)], rest)
  | _ =>
    match closedDigits? Char.isAlphanum 32 t with
    | some (name, rest) => (named? name).map fun characters => (characters, rest)
    | none => none

end Signpost.Markdown
