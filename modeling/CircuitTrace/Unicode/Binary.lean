import CircuitTrace.Unicode.Ranges

namespace CircuitTrace.Unicode

/-- The code points with a property, as runs of those without it and those with it. -/
def binaryRuns : List (String × String) :=
  [("Bidi_Control", "-1564+-6641+2-26+5-55+4"),
    ("Bidi_Mirrored",
      "-40+2-18+-+-28+-+-29+-+-45+-15+-3710+4-1885+2-2460+2-10+2-54+2-14+2-177+-192+4-3+6-3+-3+2-3
      +4-+4-+-+-4+9-5+-+18-5+4-9+2-+-+8-2+31-2+4-5+-9+2-2+19-5+2-9+5-2+2-4+24-2+16-8+4-20+2-7+2
      -1085+14-74+-2+4-+2-+3-5+4-5+3-3+14-403+22-2+6-+14-8+-7+6-3+-4+5-+2-2+5-4+-+3-2+2-10+6-2+2
      -12+19-+4-2+-+-2+-+4-5+2-6+3-24+2-11+2-4+4-+2-2+2-4+43-2+8-+40-5+-+-3+5-5+3-4+-3+5-+-256+
      -515+4-3+2-+2-14+2-2+10-43+8-427+10-2+8-52797+6-5+2-162+2-18+-+-28+-+-29+-+-+2-+2-55159+-57+
      -57+-57+-57+"),
    ("Dash",
      "-45+-1372+-51+-3649+-1029+-2057+6-61+-39+-15+-390+-3076+-2+-31+2-4+-28+-446+-19+-111+-52624
      +2-37+-10+-169+-3999+"),
    ("Deprecated", "-329+-1321+-2307+-+-2089+2-2245+6-697+2-908502+"),
    ("Diacritic",
      "-94+-+-71+-6+-4+-2+2-503+159-+8-5+6-17+2-4+-9+2-253+5-209+-55+17-+27-+-+2-+-134+8-4+2-134+2
      -4+2-3+3-67+27-91+11-58+11-34+2-126+8-41+10-16+28-61+-16+-3+4-28+-74+-16+-110+-16+-110+-16+
      -47+3-60+-16+-7+-119+-110+-16+-110+-16+-109+2-16+-124+-124+6-+-107+-13+5-75+2-27+-+-+-4+2-66
      +3-+2-62+-112+-+2-40+2-4+5-25+7-+-10+2-705+3-948+2-179+11-9+-347+3-313+8-2+-48+15-2+11-104+
      -15+-38+9-54+2-138+2-64+6-82+25-4+-6+-2+3-50+63-89+12-37+11-445+-+3-11+3-13+3-13+3-13+2-3312
      +3-317+-506+6-105+4-95+-30066+-12+2-+-28+2-82+2-14+34-102+3-109+2-202+-27+18-57+4-36+-95+-12
      +-36+-149+3-65+4-51+-100+5-9+3-128+2-20272+-769+16-270+-+-47+-45+2-67+-764+-1183+6-+42-+9
      -810+2-571+6-469+3-70+11-49+4-192+-41+-72+2-120+2-62+-76+-9+3-104+2-178+2-81+-16+-24+7-3+5
      -205+-3+-123+2-251+2-126+-118+2-115+-269+2-258+2-4+-156+-83+-18+-81+-421+-258+-+2-81+-5807
      +15-13978+5-59+7-1112+17-80+2-16382+4-+7-+2-7937+46-2+23-544+3-3+6-8+8-2+7-30+4-3714+62-194
      +7-375+-61+4-1504+7-109+3-+3"),
    ("Emoji",
      "-35+-6+-5+10-111+-4+-8077+-12+-216+-22+-90+6-15+2-367+2-12+-166+-25+11-4+3-199+-231+2-10+-9
      +-58+4-+5-9+-2+-2+2-2+-4+-2+-+2-2+-3+-3+2-8+3-5+-+-5+12-11+2-2+-+2-+-18+-2+2-18+6-+-+2-3+2-5
      +-2+2-4+2-11+2-5+2-2+-5+2-+-+2-20+2-5+6-+4-2+-4+-2+-2+6-+-2+-+-+-6+-3+-6+-10+2-15+-2+-4+-+-4
      +3-+-11+2-48+3-9+-14+-14+-372+2-463+3-19+2-51+-4+-1242+-12+-601+-+-114026+-202+-160+2-12+2
      -14+-2+10-75+26-+2-23+-20+-2+9-21+2-174+34-2+112-2+2-+3-2+83-2+3-+263-+63-11+6-+24-7+2-2+8
      -12+-2+4-2+-4+2-13+2-2+-8+2-9+-5+3-12+3-8+3-2+-+-4+-6+-3+-6+86-48+70-5+8-2+3-4+10-3+-+2-3+-2
      +10-227+12-4+-283+47-+10-+185-112+13-3+9-7+46-+7-8+14-4+9-7+9"),
    ("Emoji_Component", "-35+-6+-5+10-8147+-213+-56619+-62422+26-507+5-1456+4-788076+96"),
    ("Emoji_Modifier", "-127995+5"),
    ("Emoji_Modifier_Base",
      "-9757+-219+-16+4-117879+-60+3-2+-2+3-117+2-2+11-21+19-3+-4+3-+3-7+-+-24+-201+2-4+-21+-4+2
      -174+3-3+5-83+-16+3-9+-11+-575+-2+-8+8-6+-9+10-2+3-56+-61+2-+2-+-17+3-+13-229+3-42+9"),
    ("Emoji_Presentation",
      "-8986+2-205+4-3+-2+-521+2-21+2-50+12-43+-19+-13+-8+2-17+2-5+2-8+-5+-21+-7+2-+-4+-2+-7+-4+2
      -28+-35+-+-4+3-+-61+3-24+-14+-859+2-51+-4+-115886+-202+-190+-2+10-75+26-+-24+-20+-2+5-+3-21
      +2-174+33-12+9-+70-+22-12+43-4+5-12+17-3+-3+71-+-+187-2+63-13+4-+24-18+-26+2-13+-86+85-48+70
      -6+-3+3-2+3-4+4-11+2-7+9-227+12-4+-283+47-+10-+185-112+13-3+9-7+46-+7-8+14-4+9-7+9"),
    ("Extended_Pictographic",
      "-169+-4+-8077+-12+-216+-22+-90+6-15+2-367+2-12+-95+-70+-25+11-4+3-199+-231+2-10+-9+-58+4-+6
      -+12-+114-10+118-2+11-+-+-6+-3+-6+-10+2-15+-2+-4+-+-4+3-+-11+5-45+3-9+-14+-14+-372+2-463+3
      -19+2-51+-4+-1242+-12+-601+-+-114022+256-13+3-31+-60+6-12+2-14+-2+10-18+57-27+15-10+-20+-2+9
      -+4-9+434-5+318-8+266-48+128-116+12-85+43-12+4-56+8-10+6-40+8-30+82-12+47-+10-+441-256+1022"),
    ("Extender",
      "-183+-536+2-878+-441+-858+-752+-127+-2371+-56+-611+-398+-68+-5001+-43+5-103+2-93+3-28438+
      -1526+-962+-22+-137+-108+-21+2-21627+-2064+2-3034+-616+3-1231+-20649+2-1180+2-+-29016+2-2054
      +3"),
    ("Grapheme_Link",
      "-2381+-127+-127+-127+-127+-127+-127+-127+-109+2-16+-124+-111+-127+-201+-180+2-1753+2-30+
      -157+-653+-227+-101+2-70+2-4491+-31366+-37+-151+-142+-108+-309+-246+-24145+-1542+-41+-14+-57
      +-121+2-139+-116+-180+-98+-244+-127+-252+-127+-118+-116+-269+-259+2-161+-83+-18+-81+-421+
      -260+2-81+-425+2"),
    ("Hex_Digit", "-48+10-7+6-26+6-65193+10-7+6-26+6"),
    ("Hyphen", "-45+-127+-1244+-4731+-2057+2-3589+-739+-52583+-169+-87+"),
    ("IDS_Binary_Operator", "-12272+2-2+8"),
    ("IDS_Trinary_Operator", "-12274+2"),
    ("Ideographic",
      "-12294+2-25+9-14+3-965+6592-64+20992-22784+366-2+106-29962+-27+6136-8+1238-42+9-9319+396
      -19716+42720-32+4154-6+222-2+5762-14+7473-3103+542-1506+4939-5+4192"),
    ("Join_Control", "-8204+2"),
    ("Logical_Order_Exception", "-3648+5-123+5-2800+3-2+-37114+2-2+-+2"),
    ("Noncharacter_Code_Point",
      "-64976+32-526+2-65534+2-65534+2-65534+2-65534+2-65534+2-65534+2-65534+2-65534+2-65534+2
      -65534+2-65534+2-65534+2-65534+2-65534+2-65534+2-65534+2"),
    ("Other_Default_Ignorable_Code_Point",
      "-847+-3599+2-1619+2-2223+-4350+-52795+-79+9-851975+-+30-96+128-240+3600"),
    ("Other_Grapheme_Extend",
      "-2494+-24+-358+-24+-102+-24+-234+-18+2-103+-24+-119+-15+-3413+-1238+-4129+2-53102+2-5022+
      -24+-344+-12+-241+-896+-47156+-8+5-798381+96"),
    ("Other_ID_Continue", "-183+-719+-4065+9-1640+"),
    ("Other_ID_Start", "-6277+2-2193+-21+-3948+2"),
    ("Other_Lowercase",
      "-170+-15+-501+9-7+2-30+5-96+-52+-3457+-3119+63-13+-34+37-689+-13+-16+13-211+16-848+26-1938
      +2-31262+2-210+-129+3-3+2-866+4-9+-23574+-2+3-+42-+9-55413+62"),
    ("Other_Math",
      "-94+-881+3-2+-26+2-2+2-7200+-27+3-11+-32+4-24+2-14+2-65+13-4+-3+2-4+5-18+-4+-2+10-+-3+5-6+
      -3+2-2+2-+3-+6-3+4-5+5-75+5-2+4-+2-+2-+-+5-2+2-4+2-4+18-2+2-+-+7-+-6+2-290+4-168+2-+-24+-17+
      -445+2-12+9-5+5-5+2-2+2-3+5-14+-+-2+6-24+2-57+-+-29+4-9+2-342+2-31+10-403+22-63+4-32+2-54371
      +-+-4+-211+-+-54465+85-+71-+2-2+-2+2-2+4-+12-+-+7-+65-+4-2+8-+7-+28-+4-+5-+-3+7-+340-2+25-
      +25-+31-+25-+31-+25-+31-+25-+31-+25-+8-2+50-5632+4-+27-+2-+-2+-+10-+4-+-+-6+-4+-+-+-+3-+2-+
      -2+-+-+-+-+-+2-+-2+4-+7-+4-+4-+-+10-+17-5+3-+5-+17"),
    ("Other_Uppercase", "-8544+16-838+26-117856+26-6+26-6+26"),
    ("Pattern_Syntax",
      "-33+15-10+7-26+4-+-26+4-34+7-+-+2-+-+2-4+-4+-3+-23+-31+-7960+24-8+15-2+19-+10-305+720-160
      +630-30+1132-512+128-385+3-4+25-15+-52493+2-261+2"),
    ("Pattern_White_Space", "-9+5-18+-100+-8072+2-24+2"),
    ("Prepended_Concatenation_Mark", "-1536+6-215+-49+-384+2-80+-67546+-15+"),
    ("Quotation_Mark", "-34+-4+-131+-15+-8028+8-25+2-3591+-457+4-13+3-52769+4-189+-4+-90+2"),
    ("Radical", "-11904+26-+89-12+214"),
    ("Regional_Indicator", "-127462+26"),
    ("Sentence_Terminal",
      "-33+-12+-16+-1353+-147+3-180+-43+3-246+-61+-+-3+2-293+2-1764+2-790+-4+2-773+-198+2-204+-5+
      -314+2-354+4-174+2-2+2-29+2-188+2-65+2-956+2-9+3-3556+-13+-22+2-429+-29948+-270+2-227+-3+
      -382+2-86+2-95+-152+2-147+3-144+2-249+-21094+-3+2-169+-12+-16+-65+-2804+2-1277+5-44+4-189+2
      -117+4-127+3-129+2-6+-16+2-88+2-+2-108+-417+2-373+2-5+15-105+2-249+3-517+-+-251+2-87+2-420+2
      -692+2-74+2-19241+2-133+-65+2-11+-851+-19974+-7656+"),
    ("Soft_Dotted",
      "-105+2-196+-281+-30+-52+-20+-320+-98+-+-6409+-51+-13+-3+-132+-157+-421+-214+2-2866+-108453
      +2-50+2-50+2-50+2-50+2-50+2-50+2-50+2-50+2-50+2-50+2-50+2-50+2-2182+-305+2-26+"),
    ("Terminal_Punctuation",
      "-33+-10+-+-11+2-3+-830+-8+-513+-57+-72+-14+-+3-180+-43+11-+-235+2-54+15-31+-261+2-1268+2
      -172+-4+6-311+2-789+8-773+-124+3-71+2-157+3-3+-39+4-2+2-314+2-354+4-174+2-+3-29+2-188+5-62+2
      -956+2-9+3-3556+-13+-4+-10+-+2-3+2-428+2-29947+2-269+3-227+5-382+2-86+2-95+-151+3-147+3-127+
      -16+2-249+-21092+3-+4-169+-10+-+-11+2-3+-65+-2+-1082+-48+-1158+-199+-310+2-152+6-68+6-89+4
      -952+5-44+4-189+7-112+4-127+3-129+2-6+-16+2-88+5-108+-417+3-12+2-358+4-3+15-105+2-249+3-517+
      -+-251+2-87+2-4+2-414+3-45+-645+2-74+2-1323+5-17913+2-133+-65+3-10+-850+2-19974+-7655+4"),
    ("Unified_Ideograph",
      "-13312+6592-64+20992-23054+2-+-+2-10+-+-+2-2+3-67030+42720-32+4154-6+222-2+5762-14+7473
      -5151+4939-5+4192"),
    ("Variation_Selector", "-6155+3-+-58864+16-852720+240")]

/-- For every code point a letter for the kinds of change of case that change it. -/
def caseRuns : String :=
  "-65U26-6l26-58s-10U23-U7sl23-l8UlUlUlUlUlUlUlUlUlUlUlUlUlUlUlUlUlUlUlUlUlUlUlUlUlUlUlUl-UlUlUl
  UlUlUlUlUlsUlUlUlUlUlUlUlUlUlUlUlUlUlUlUlUlUlUlUlUlUlUlUlU2lUlUlslU2lUlU2lU3l-U4lU2lU3l2-U2lU2l
  UlUlU2lU-2UlU2lU3lUlU2l-2Ul-l-4XTlXTlXTlUlUlUlUlUlUlUlUl2UlUlUlUlUlUlUlUlUl2XTlUlU3lUlUlUlUlUlUl
  UlUlUlUlUlUlUlUlUlUlUlUlUlU-UlUlUlUlUlUlUlUlUl-6U2lU2l2UlU4lUlUlUlUl6-l2-l-l2-3l2-l-l2-l5-2l-l2
  -2l-7l-2l-l2-3l6-5l-10l2-166s-42UlUl-2Ul-3l3-U-6U-U3-U-U2lU17-U9l22sl12Us2-3s2lUlUlUlUlUlUlUlUl
  UlUlUlUls2l2Us-UlU2l-U51l48UlUlUlUlUlUlUlUlUlUlUlUlUlUlUlUlUl-8UlUlUlUlUlUlUlUlUlUlUlUlUlUlUlUl
  UlUlUlUlUlUlUlUlUlUlUlU2lUlUlUlUlUlUl2UlUlUlUlUlUlUlUlUlUlUlUlUlUlUlUlUlUlUlUlUlUlUlUlUlUlUlUlUl
  UlUlUlUlUlUlUlUlUlUlUlUlUlUlUlUlUlUlUl-U38-10l38s-2840U38-U-5U-2a43-2a3-672A86-2s6-2178s9-7U43-2
  U3-185l-3l-16l-113UlUlUlUlUlUlUlUlUlUlUlUlUlUlUlUlUlUlUlUlUlUlUlUlUlUlUlUlUlUlUlUlUlUlUlUlUlUlUl
  UlUlUlUlUlUlUlUlUlUlUlUlUlUlUlUlUlUlUlUlUlUlUlUlUlUlUlUlUlUlUlUlUlUlUlUl5s2-2U-UlUlUlUlUlUlUlUl
  UlUlUlUlUlUlUlUlUlUlUlUlUlUlUlUlUlUlUlUlUlUlUlUlUlUlUlUlUlUlUlUlUlUlUlUlUlUlUlUl9U8l6-2U6-2l8U8
  l8U8l6-2U6-2l8-U-U-U-Ul8U8l14-2s8T8s8T8s8T8l2s3-lsU4T-l-3s3-lsU4T-3l4-2l2U4-4l8U5-5s3-lsU4T-297U
  -3U2-6U-27l-17U16l16-3Ul-817U26l26-1814U48l48UlU3l2UlUlUlU4-Ul-Ul-7U3lUlUlUlUlUlUlUlUlUlUlUlUlUl
  UlUlUlUlUlUlUlUlUlUlUlUlUlUlUlUlUlUlUlUlUlUlUlUlUlUlUlUlUlUlUlUlUlUlUlUl-7UlUl-3Ul-12l38-l-5l
  -30994UlUlUlUlUlUlUlUlUlUlUlUlUlUlUlUlUlUlUlUlUlUlUl-18UlUlUlUlUlUlUlUlUlUlUlUlUlUl-134UlUlUlUl
  UlUlUl-2UlUlUlUlUlUlUlUlUlUlUlUlUlUlUlUlUlUlUlUlUlUlUlUlUlUlUlUlUlUlUl-9UlUlU2lUlUlUlUl-3UlU-2Ul
  Ul2-UlUlUlUlUlUlUlUlUlUlU5-U5lUlUlUlUlUlUlUlU4lUl-5Ul-4UlUl-27Ul-860l-28s80-20288s7-12s5-1033U26
  -6l26-1189U40l40-96U36-4l36-116U11-U15-U7-U2-l11-l15-l7-l2-1731U51-13l51-2989U32l32-21856U32l32
  -31360U34l34"

def listed (property : String) : Ranges :=
  match binaryRuns.find? (·.1 == property) with
  | some entry => runs 1 (· == "+") entry.2
  | none => #[]

def changing (letters : List String) : Ranges := runs 1 letters.contains caseRuns

end CircuitTrace.Unicode
