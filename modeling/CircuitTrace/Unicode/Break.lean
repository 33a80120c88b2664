import CircuitTrace.Unicode.Ranges

namespace CircuitTrace.Unicode

/-- For every code point its place in a grapheme cluster, with one label for all syllables of
Hangul. -/
def graphemeRuns : String :=
  "CN10LFCN2CRCN18XX95CN33XX13CNXX594EX112XX275EX7XX263EX45XXEXXXEX2XXEX2XXEXXX56PP6XX10EX11XXCN
  XX46EX21XX16EXXX101EX7PPXXEX6XX2EX2XXEX4XX33PPXXEXXX30EX27XX91EX11XX58EX9XX9EXXX24EX4XXEX9XXEX3
  XXEX5XX43EX3XX52PP2XX6EX8XX42EX24PPEX32SMXX54EXSMEXXXSM3EX8SM4EXSM2XXEX7XX10EX2XX29EXSM2XX56EXXX
  EXSM2EX4XX2SM2XX2SM2EXXX9EXXX10EX2XX26EXXX2EX2SMXX56EXXXSM3EX2XX4EX2XX2EX3XX3EXXX30EX2XX3EXXX11
  EX2SMXX56EXXXSM3EX5XXEX2SMXXSM2EXXX20EX2XX22EX6XXEXSM2XX56EXXXEX2SMEX4XX2SM2XX2SM2EXXX7EX3XX10
  EX2XX30EXXX59EXSMEXSM2XX3SM3XXSM3EXXX9EXXX40EXSM3EXXX55EXXXEX3SM4XXEX3XXEX4XX7EX2XX11EX2XX29EX
  SM2XX56EXXXSMEXSM2EXSM2XXEXSM2XXSM2EX2XX7EX2XX11EX2XX15SMXX12EX2SM2XX55EX2XXEXSM2EX4XXSM3XXSM3EX
  PPXX8EXXX10EX2XX29EXSM2XX70EXXX4EXSM2EX3XXEXXXSM7EXXX18SM2XX61EXXXSMEX7XX12EX8XX98EXXXSMEX9XX11
  EX7XX73EX2XX27EXXXEXXXEXXX4SM2XX49EX14SMEX5XXEX2XX5EX11XXEX36XX9EXXX102EX4SMEX6XXEX2SM2EX2XX23
  SM2EX2XX4EX3XX16EX4XX13EXXXSMEX2XX6EXXX15EXXX98HL96HV72HT88XX349EX3XX946EX3SMXX28EX2SMXX29EX2
  XX30EX2XX64EX2SMEX7SM8EXSM2EX11XX9EXXX45EX3CNEXXX117EX2XX34EXXX118EX3SM4EX2SM3XX4SM2EXSM6EX3
  XX219EX2SM2EXXX57SMEXSMEX7XXEXXXEXXX2EX8SM6EX10XX2EXXX48EX31XX49EX4SMXX47EX7SMEXSM5EXSM2XX38EX9
  XX12EX2SMXX30SMEX4SM2EX2SMEX3XX56EXSMEX2SM3EXSMEX3SM2XX48SM8EX8SM2EX2XX152EX3XXEX13SMEX7XX4EXXX6
  EXXX2SMEX2XX198EX64XX523CNEXZJCN2XX24CN7XX49CN16XX96EX33XX3070EX3XX141EXXX96EX32XX554EX6XX105EX2
  XX30164EX4XXEX10XX32EX2XX80EX2XX272EXXX3EXXX4EXXX23SM2EX2SMXX4EXXX83SM2XX50SM16EX2XX26EX18XX13EX
  XX38EX8XX25EX11SM2XX12HL29XX3EX3SMXX47EXSM2EX4SM2EX2SM3XX36EXXX67EX6SM2EX2SM2EX2XX12EXXX8EXSM
  XX46EXXX51EXXXEX3XX2EX2XX5EX2XXEXXX41SMEX2SM2XX5SMEXXX236SM2EXSM2EXSM2XXSMEXXX18HS11172XX12HV23
  XX4HT49XX8994EXXX737EX16XX16EX16XX207CNXX158EX2XX80CN12XX513EXXX226EXXX149EX5XX1670EX3XXEX2XX5
  EX4XX40EX3XX4EXXX165EX2XX573EX4XX387EX2XX80EX3XX70EX11XX49EX4XX122SMEXSMXX53EX15XX41EXXX2EX2XX10
  EX3SMXX45SM3EX4SM2EX2XX2PPXX4EXXX10PPXX50EX3XX36EX5SMEX8XX16SM2XX44EXXX12EX2SMXX48SM3EX9SM2XXPP2
  XX5EX4XXSMEXXX92SM3EX3SM2EXSMEX2XX6EXXX2EXXX157EXSM3EX8XX21EX2SM2XX55EX2XXEXSMEXSM4XX2SM2XX2SM3
  XX9EXXX10SM2XX2EX7XX3EX5XX192SM3EX8SM2EX3SMEXXX23EXXX81EXSM2EX6SMEXSM2EXSMEX2SMEX2XX235EXSM2EX4
  XX2SM4EX2SMEX2XX27EX2XX82SM3EX8SM2EXSMEX2XX106EXSMEXSM2EX6SMEXXX101EX3XX2EX4SMEX5XX256SM3EX9SM
  EX2XX245EXSM5XXSM2XX2EX2SMEXPPSMPPSMEXXX141SM3EX4XX2EX2SM4EXXX3SMXX28EX10XX40EX6SMPPEX4XX8EXXX9
  EX6SM2EX3XX40PP6EX13SMEX2XX405SMEX7XXEX6SMEXXX82EX22XXSMEX7SMEX2SMEX2XX122EX6XX3EXXXEX2XXEX7PPEX
  XX66SM5XXEX2XXSM2EXSMEXXX347EX2SM2XX9EX2PPSMXX48SM2EX5XX3SM2EXSMEXXX5357CN16EXXX6EX15XX13978EX5
  XX59EX7XX1048EXXXSM55XX7EX4XX81EXXX11SM2XX19627EX2XXCN4XX4700EX46XX2EX23XX542EXSMEX3XX3SMEX5CN8
  EX8XX2EX7XX30EX4XX148EX3XX1979EX55XX4EX50XX8EXXX14EXXX22EX5XXEX15XX1360EX7XXEX17XX2EX7XXEX2XXEX5
  XX100EXXX160EX7XX375EXXX61EX4XX508EX4XX992EX7XX109EX7XX2203RI26XX507EX5XX789504CN32EX96CN128
  EX240CN3600"

def graphemeValues : List (List String × String) :=
  [(["CN", "Control"], "CN"), (["CR"], "CR"), (["EX", "Extend"], "EX"), (["L"], "HL"),
    (["LF"], "LF"), (["PP", "Prepend"], "PP"), (["RI", "Regional_Indicator"], "RI"),
    (["SM", "SpacingMark"], "SM"), (["T"], "HT"), (["V"], "HV"), (["ZWJ"], "ZJ")]

def wordRuns : String :=
  "XX10LFNL2CRXX18WSXXDQXX4SQXX4MNXXMBXXNU10MLMNXX5LE26XX4ENXXLE26XX10NLXX36LEXX2FOXX7LEXXMLXX2LE
  XX5LE23XXLE31XXLE480XX6LE34EX112LE5XXLE2XX2LE4MNLEXX6LEMLLE3XXLEXXLE20XXLE83XXLE139XXEX7LE166XX
  LE38XX2LE4XXLEMLLE41MNLEXX6EX45XXEXXXEX2XXEX2XXEXXX8HL27XX4HL4LEMLXX11FO6XX6MN2XX2EX11XXFOXX3
  LE43EX21NU10XXNUMNXXLE2EXLE99XXLEEX7FOXXEX6LE2EX2XXEX4LE2NU10LE3XX2LEXX15FOLEEXLE30EX27XX2LE89
  EX11LEXX14NU10LE33EX9LE2XX2MNXXLEXX2EXXX2LE22EX4LEEX9LEEX3LEEX5XX18LE25EX3XX4LE11XX5LE24XXLE6XX
  FO2XX6EX8LE42EX24FOEX33LE54EX3LEEX18LEEX7LE10EX2XX2NU10XXLE16EX3XXLE8XX2LE2XX2LE22XXLE7XXLEXX3
  LE4XX2EXLEEX7XX2EX2XX2EX3LEXX8EXXX4LE2XXLE3EX2XX2NU10LE2XX10LEXXEXXX2EX3XXLE6XX4LE2XX2LE22XXLE7
  XXLE2XXLE2XXLE2XX2EXXXEX5XX4EX2XX2EX3XX3EXXX7LE4XXLEXX7NU10EX2LE3EXXX11EX3XXLE9XXLE3XXLE22XXLE7
  XXLE2XXLE5XX2EXLEEX8XXEX3XXEX3XX2LEXX15LE2EX2XX2NU10XX9LEEX6XXEX3XXLE8XX2LE2XX2LE22XXLE7XXLE2XX
  LE5XX2EXLEEX7XX2EX2XX2EX3XX7EX3XX4LE2XXLE3EX2XX2NU10XXLEXX16EXLEXXLE6XX3LE3XXLE4XX3LE2XXLEXXLE2
  XX3LE2XX3LE3XX3LE12XX4EX5XX3EX3XXEX4XX2LEXX6EXXX14NU10XX16EX5LE8XXLE3XXLE23XXLE16XX2EXLEEX7XXEX3
  XXEX4XX7EX2XXLE3XX2LEXX2LE2EX2XX2NU10XX16LEEX3XXLE8XXLE3XXLE23XXLE10XXLE5XX2EXLEEX7XXEX3XXEX4XX7
  EX2XX6LE2XXLE2EX2XX2NU10XXLE2EXXX12EX4LE9XXLE3XXLE41EX2LEEX7XXEX3XXEX4LEXX5LE3EXXX7LE3EX2XX2NU10
  XX10LE6XXEX3XXLE18XX3LE24XXLE9XXLEXX2LE7XX3EXXX4EX6XXEXXXEX8XX6NU10XX2EX2XX61EXXX2EX7XX12EX8XX
  NU10XX87EXXX2EX9XX11EX7XXNU10XX38LEXX23EX2XX6NU10XX11EXXXEXXXEXXX4EX2LE8XXLE36XX4EX20XXEX2LE5
  EX11XXEX36XX9EXXX100EX20XXNU10XX12EX4XX4EX3XXEX3XX2EX7XX3EX4XX13EX12XXEXNU10EX4XX2LE38XXLEXX5LE
  XX2LE43XXLE333XXLE4XX2LE7XXLEXXLE4XX2LE41XXLE4XX2LE33XXLE4XX2LE7XXLEXXLE4XX2LE15XXLE57XXLE4XX2
  LE67XX2EX3XX32LE16XX16LE86XX2LE6XX3LE620XX2LE17WSLE26XX5LE75XX3LE11XX7LE18EX4XX9LE19EX3XX11LE18
  EX2XX12LE13XXLE3XXEX2XX64EX32XX9EXXX2NU10XX33EX3FOEXNU10XX6LE89XX7LE5EX2LE34EXLEXX5LE70XX10LE31
  XXEX12XX4EX12XX10NU10XX128NU10XX38LE23EX5XX57EX10XXEX29XX2EXNU10XX6NU10XX22EX31XX49EX5LE47EX17
  LE8XX3NU10XX17EX9XX12EX3LE30EX13LE2NU10LE44EX14XX12LE36EX20XX8NU10XX3LE3NU10LE36XX2LE9XX7LE43XX2
  LE3XX16EX3XXEX21LE4EXLE6EXLE2EX3LEXX5LE192EX64LE278XX2LE6XX2LE38XX2LE6XX2LE8XXLEXXLEXXLEXXLE31
  XX2LE53XXLE7XXLEXX3LE3XXLE7XX3LE4XX2LE6XX4LE13XX5LE3XXLE7XX3WS7XXWS3XXEXZJFO2XX8MB2XX10MBXX2ML
  NL2FO5ENXX15EN2XX3MNXX15ENXX10WSFO5XXFO10XXLEXX13LEXX16LE13XX51EX33XX17LEXX4LEXX2LE10XXLEXX3LE5
  XX6LEXXLEXXLEXXLE4XXLE11XX2LE4XX5LE5XX4LEXX17LE41XX813LE52XX1814LE229XX6LE4EX3LE2XX12LE38XXLEXX5
  LEXX2LE56XX7LEXX15EXLE23XX9LE7XXLE7XXLE7XXLE7XXLE7XXLE7XXLE7XXLE7XXEX32XX47LEXX464WSXX4LEXX36EX6
  XXKA5XX5LE2XX92EX2KA2XX3KA91XXKA4XX5LE43XXLE94XX17LE32XX48KA16XX208KA47XXKA88XX27816LE1165XX67
  LE46XX2LE269XX3LE16NU10LE2XX20LE47EX4XXEX10XXLE31EX2LE80EX2XX22LE195XX5LE2XXLEXXLE5XX24LE16EXLE3
  EXLE4EXLE23EX5XX4EXXX19LE52XX12EX2LE50EX18XX10NU10XX6EX18LE6XX3LEXXLE2EXNU10LE28EX8XX2LE23EX13
  XX12LE29XX3EX4LE47EX14XX14LENU10XX11EXXX10NU10XX6LE41EX14XX9LE3EXLE8EX2XX2NU10XX33EX3XX50EXXXEX3
  XX2EX2XX5EX2XXEXXX30LE11EX5XX2LE3EX2XX10LE6XX2LE6XX2LE6XX9LE7XXLE7XXLE58XX6LE115EX8XXEX2XX2NU10
  XX6LE11172XX12LE23XX4LE49XX8964LE7XX12LE5XX5HLEXHL10XXHL13XXHL5XXHLXXHL2XXHL2XXHL10LE98XX33LE363
  XX18LE64XX2LE54XX40LE12XX4EX16MNXX2MLMNXX11EX16XX3EN2XX24EN3MNXXMBXXMNMLXX26LE5XXLE135XX2FOXX7MB
  XX4MNXXMBXXNU10MLMNXX5LE26XX4ENXXLE26XX11KA56EX2LE31XX3LE6XX2LE6XX2LE6XX2LE3XX28FO3XX4LE12XXLE26
  XXLE19XXLE2XXLE15XX2LE14XX34LE123XX69LE53XX136EXXX130LE29XX3LE49XX15EXXX31LE32XX13LE30XX5LE38EX5
  XX5LE30XX2LE36XX4LE8XXLE5XX42LE158XX2NU10XX6LE36XX4LE36XX4LE40XX8LE52XX12LE11XXLE15XXLE7XXLE2XX
  LE11XXLE15XXLE7XXLE2XX67LE311XX9LE22XX10LE8XX24LE6XXLE42XXLE9XX69LE6XX2LEXXLE44XXLE2XX3LEXX2LE23
  XX10LE23XX9LE31XX65LE19XXLE2XX10LE22XX10LE26XX70LE56XX6LE2XX64LEEX3XXEX2XX5EX4LE4XXLE3XXLE29XX2
  EX3XX4EXXX32LE29XX3LE29XX35LE8XXLE28EX2XX25LE54XX10LE22XX10LE19XX13LE18XX110LE73XX55LE51XX13LE51
  XX13LE36EX4XX8NU10XX326LE42XXEX2XX3LE2XX75EX3LE29XX10LEXX8LE22EX11XX31LE18EX4XX42LE21XX27LE23XX9
  EX3LE53EX15XX31NU10EXLE2EX2LEXX9EX4LE45EX11XX2FOXX4EXXX10FOXX2LE25XX7NU10XX6EX3LE36EX14XXNU10XX4
  LEEX2LEXX8LE35EXXX2LEXX9EX3LE48EX14LE4XX4EX4XXEX2NU10LEXXLEXX35LE18XXLE25EX12XX6EXLE2EXXX62LE7XX
  LEXXLE4XXLE15XXLE10XX7LE47EX12XX5NU10XX6EX4XXLE8XX2LE2XX2LE22XXLE7XXLE2XXLE5XXEX2LEEX7XX2EX2XX2
  EX3XX2LEXX6EXXX5LE5EX2XX2EX7XX3EX5XX139LE53EX18LE4XX5NU10XX4EXLE3XX30LE48EX20LE2XXLEXX8NU10XX166
  LE47EX7XX2EX9XX23LE4EX2XX34LE48EX17XX3LEXX11NU10XX38LE43EX13LEXX7NU10XX83EX15XX4NU10XX198LE44
  EX15XX101LE64NU10XX21LE8XX2LEXX2LE8XXLE2XXLE24EX6XXEX2XX2EX4LEEXLEEX2XX12NU10XX70LE8XX2LE39EX7
  XX2EX7LEXXLEEXXX27LEEX10LE40EX7LEEX4XX8EXXX8LEEX11LE46EX16XX3LEXX18LE73XX263LE9XXLE37EX8XXEX8LE
  XX15NU10XX24LE30XX2EX22XXEX14XX73LE7XXLE2XXLE38EX6XX3EXXXEX2XXEX7LEEXXX8NU10XX6LE6XXLE2XXLE32EX5
  XXEX2XXEX5LEXX7NU10XX310LE19EX4XX9EX2LEEXLE13XXLE34EX7XX3EX5XX13NU10XX86LEXX79LE922XX102LE111
  XX17LE196XX2636LE97XX15LE1072FO16EXLE6EX15XX4010LE583XX8633LE569XX7LE31XXNU10XX6LE79XXNU10XX6
  LE30XX2EX5XX11LE48EX7XX9LE4XX12NU10XX9LE21XX5LE19XX688LE64XX128LE75XX4EXLEEX55XX7EX4LE13XX64LE2
  XXLEEXXX11EX2XX16382KA4XXKA7XXKA2XXKAXX287KA3XX50KAXX14KA4XX2712LE107XX5LE13XX3LE9XX7LE10XX3EX2
  XXFO4XX4700EX46XX2EX23XX542EX5XX3EX6FO8EX8XX2EX7XX30EX4XX148EX3XX443LE85XXLE71XXLE2XX2LEXX2LE2
  XX2LE4XXLE12XXLEXXLE7XXLE65XXLE4XX2LE8XXLE7XXLE28XXLE4XXLE5XXLEXX3LE7XXLE340XX2LE25XXLE25XXLE31
  XXLE25XXLE31XXLE25XXLE31XXLE25XXLE31XXLE25XXLE8XX2NU50XX512EX55XX4EX50XX8EXXX14EXXX22EX5XXEX15
  XX1104LE31XX6LE6XX213EX7XXEX17XX2EX7XXEX2XXEX5XX5LE62XX33EXXX112LE45XX3EX7LE7XX2NU10XX4LEXX321
  LE30EXXX17LE44EX4NU10XX470LE28EX4NU10XX742LE7XXLE4XXLE2XXLE15XXLE197XX11EX7XX41LE68EX7LEXX4NU10
  XX1190LE4XXLE27XXLE2XXLEXX2LEXXLE10XXLE4XXLEXXLEXX6LEXX4LEXXLEXXLEXXLE3XXLE2XXLEXX2LEXXLEXXLEXX
  LEXXLEXXLE2XXLEXX2LE4XXLE7XXLE4XXLE4XXLEXXLE10XXLE17XX5LE3XXLE5XXLE17XX628LE26XX6LE26XX6LE26XX92
  RI26XX507EX5XX2032NU10XX787463FOXX30EX96XX128EX240"

def wordValues : List (List String × String) :=
  [(["CR"], "CR"), (["DQ", "Double_Quote"], "DQ"), (["EX", "ExtendNumLet"], "EN"),
    (["Extend"], "EX"), (["FO", "Format"], "FO"), (["HL", "Hebrew_Letter"], "HL"),
    (["KA", "Katakana"], "KA"), (["LE", "ALetter"], "LE"), (["LF"], "LF"),
    (["MB", "MidNumLet"], "MB"), (["ML", "MidLetter"], "ML"), (["MN", "MidNum"], "MN"),
    (["NL", "Newline"], "NL"), (["NU", "Numeric"], "NU"), (["RI", "Regional_Indicator"], "RI"),
    (["SQ", "Single_Quote"], "SQ"), (["WSegSpace"], "WS"), (["ZWJ"], "ZJ")]

def sentenceRuns : String :=
  "XX9SPLFSP2CRXX18SPSTCLXX4CL3XX2SC2ATXXNU10SCXX4STXXUP26CLXXCLXX3LO26CLXXCLXX7SEXX26SPXX9LOCLXX
  FOXX7LOXX4LOCLXX4UP23XXUP7LO24XXLO8UPLOUPLOUPLOUPLOUPLOUPLOUPLOUPLOUPLOUPLOUPLOUPLOUPLOUPLOUPLO
  UPLOUPLOUPLOUPLOUPLOUPLOUPLOUPLOUPLOUPLOUPLOUPLOUPLO2UPLOUPLOUPLOUPLOUPLOUPLOUPLOUPLO2UPLOUPLOUP
  LOUPLOUPLOUPLOUPLOUPLOUPLOUPLOUPLOUPLOUPLOUPLOUPLOUPLOUPLOUPLOUPLOUPLOUPLOUPLOUPLOUP2LOUPLOUPLO3
  UP2LOUPLOUP2LOUP3LO2UP4LOUP2LOUP3LO3UP2LOUP2LOUPLOUPLOUP2LOUPLO2UPLOUP2LOUP3LOUPLOUP2LO2LEUPLO3
  LE4UP2LOUP2LOUP2LOUPLOUPLOUPLOUPLOUPLOUPLOUPLOUPLO2UPLOUPLOUPLOUPLOUPLOUPLOUPLOUPLOUPLO2UP2LOUP
  LOUP3LOUPLOUPLOUPLOUPLOUPLOUPLOUPLOUPLOUPLOUPLOUPLOUPLOUPLOUPLOUPLOUPLOUPLOUPLOUPLOUPLOUPLOUPLO
  UPLOUPLOUPLOUPLOUPLOUPLOUPLO7UP2LOUP2LO2UPLOUP4LOUPLOUPLOUPLOUPLO69LELO36LE7LO2XX4LE12XX14LO5XX7
  LEXXLEXX17EX112UPLOUPLOLEXXUPLOXX2LO4XXUPXX6UPXXUP3XXUPXXUP2LOUP17XXUP9LO35UPLO2UP3LO3UPLOUPLOUP
  LOUPLOUPLOUPLOUPLOUPLOUPLOUPLOUPLOUPLO5UPLOXXUPLOUP2LO2UP51LO48UPLOUPLOUPLOUPLOUPLOUPLOUPLOUPLO
  UPLOUPLOUPLOUPLOUPLOUPLOUPLOUPLOUPLOXXEX7UPLOUPLOUPLOUPLOUPLOUPLOUPLOUPLOUPLOUPLOUPLOUPLOUPLOUP
  LOUPLOUPLOUPLOUPLOUPLOUPLOUPLOUPLOUPLOUPLOUPLOUPLOUPLOUP2LOUPLOUPLOUPLOUPLOUPLOUPLO2UPLOUPLOUPLO
  UPLOUPLOUPLOUPLOUPLOUPLOUPLOUPLOUPLOUPLOUPLOUPLOUPLOUPLOUPLOUPLOUPLOUPLOUPLOUPLOUPLOUPLOUPLOUPLO
  UPLOUPLOUPLOUPLOUPLOUPLOUPLOUPLOUPLOUPLOUPLOUPLOUPLOUPLOUPLOUPLOUPLOUPLOUPLOUPLOUPLOXXUP38XX2LE
  XX3SCXX2LO41STXX7EX45XXEXXXEX2XXEX2XXEXXX8LE27XX4LE5XX12FO6XX6SC2XX2EX11XXFOST3LE43EX21NU10XXNU2
  XXLE2EXLE99STLEEX7FOXXEX6LE2EX2XXEX4LE2NU10LE3XX2LEST3XX12FOLEEXLE30EX27XX2LE89EX11LEXX14NU10
  LE33EX9LE2XX2SCSTLEXX2EXXX2LE22EX4LEEX9LEEX3LEEX5XX9STXXSTXX3ST2XXLE25EX3XX4LE11XX5LE24XXLE6XX
  FO2XX6EX8LE42EX24FOEX33LE54EX3LEEX18LEEX7LE10EX2ST2NU10XXLE16EX3XXLE8XX2LE2XX2LE22XXLE7XXLEXX3
  LE4XX2EXLEEX7XX2EX2XX2EX3LEXX8EXXX4LE2XXLE3EX2XX2NU10LE2XX10LEXXEXXX2EX3XXLE6XX4LE2XX2LE22XXLE7
  XXLE2XXLE2XXLE2XX2EXXXEX5XX4EX2XX2EX3XX3EXXX7LE4XXLEXX7NU10EX2LE3EXXX11EX3XXLE9XXLE3XXLE22XXLE7
  XXLE2XXLE5XX2EXLEEX8XXEX3XXEX3XX2LEXX15LE2EX2XX2NU10XX9LEEX6XXEX3XXLE8XX2LE2XX2LE22XXLE7XXLE2XX
  LE5XX2EXLEEX7XX2EX2XX2EX3XX7EX3XX4LE2XXLE3EX2XX2NU10XXLEXX16EXLEXXLE6XX3LE3XXLE4XX3LE2XXLEXXLE2
  XX3LE2XX3LE3XX3LE12XX4EX5XX3EX3XXEX4XX2LEXX6EXXX14NU10XX16EX5LE8XXLE3XXLE23XXLE16XX2EXLEEX7XXEX3
  XXEX4XX7EX2XXLE3XX2LEXX2LE2EX2XX2NU10XX16LEEX3XXLE8XXLE3XXLE23XXLE10XXLE5XX2EXLEEX7XXEX3XXEX4XX7
  EX2XX6LE2XXLE2EX2XX2NU10XXLE2EXXX12EX4LE9XXLE3XXLE41EX2LEEX7XXEX3XXEX4LEXX5LE3EXXX7LE3EX2XX2NU10
  XX10LE6XXEX3XXLE18XX3LE24XXLE9XXLEXX2LE7XX3EXXX4EX6XXEXXXEX8XX6NU10XX2EX2XX13LE48EXLE2EX7XX5LE7
  EX8XXNU10XX39LE2XXLEXXLE5XXLE24XXLEXXLE10EXLE2EX9LEXX2LE5XXLEXXEX7XXNU10XX2LE4XX32LEXX23EX2XX6
  NU10XX11EXXXEXXXEXCL4EX2LE8XXLE36XX4EX20XXEX2LE5EX11XXEX36XX9EXXX57LE43EX20LENU10ST2XX4LE6EX4LE4
  EX3LEEX3LE2EX7LE3EX4LE13EX12LEEXNU10EX4XX2UP38XXUPXX5UPXX2LE43XXLOLE332XXLE4XX2LE7XXLEXXLE4XX2
  LE41XXLE4XX2LE33XXLE4XX2LE7XXLEXXLE4XX2LE15XXLE57XXLE4XX2LE67XX2EX3XX2STXX4ST2XX23LE16XX16UP86
  XX2LO6XX3LE620XXSTLE17SPLE26CL2XX3LE75XX3LE11XX7LE18EX4XX9LE19EX3ST2XX9LE18EX2XX12LE13XXLE3XXEX2
  XX12LE52EX32XX3LEXX4LEEXXX2NU10XX24SCSTXX4SCSTXXEX3FOEXNU10XX6LE89XX7LE5EX2LE34EXLEXX5LE70XX10
  LE31XXEX12XX4EX12XX8ST2NU10LE30XX2LE5XX11LE44XX4LE26XX6NU10XX38LE23EX5XX4LE53EX10XXEX29XX2EXNU10
  XX6NU10XX13LEST4XX4EX31XX49EX5LE47EX17LE8XX3NU10ST2XX2ST2XX11EX9XX9ST2XXEX3LE30EX13LE2NU10LE44
  EX14XX12LE36EX20XX3ST2XX3NU10XX3LE3NU10LE36ST2LO9XX7LE43XX2LE3XX16EX3XXEX21LE4EXLE6EXLE2EX3LEXX5
  LO192EX64UPLOUPLOUPLOUPLOUPLOUPLOUPLOUPLOUPLOUPLOUPLOUPLOUPLOUPLOUPLOUPLOUPLOUPLOUPLOUPLOUPLOUP
  LOUPLOUPLOUPLOUPLOUPLOUPLOUPLOUPLOUPLOUPLOUPLOUPLOUPLOUPLOUPLOUPLOUPLOUPLOUPLOUPLOUPLOUPLOUPLOUP
  LOUPLOUPLOUPLOUPLOUPLOUPLOUPLOUPLOUPLOUPLOUPLOUPLOUPLOUPLOUPLOUPLOUPLOUPLOUPLOUPLOUPLOUPLOUPLOUP
  LOUPLOUPLOUPLOUPLOUPLO9UPLOUPLOUPLOUPLOUPLOUPLOUPLOUPLOUPLOUPLOUPLOUPLOUPLOUPLOUPLOUPLOUPLOUPLO
  UPLOUPLOUPLOUPLOUPLOUPLOUPLOUPLOUPLOUPLOUPLOUPLOUPLOUPLOUPLOUPLOUPLOUPLOUPLOUPLOUPLOUPLOUPLOUPLO
  UPLOUPLOUPLOUPLOUPLOUPLOUPLO9UP8LO6XX2UP6XX2LO8UP8LO8UP8LO6XX2UP6XX2LO8XXUPXXUPXXUPXXUPLO8UP8
  LO14XX2LO8UP8LO8UP8LO8UP8LO5XXLO2UP5XXLOXX3LO3XXLO2UP5XX3LO4XX2LO2UP4XX4LO8UP5XX5LO3XXLO2UP5XX3
  SP11FOEX2FO2XX3SC2XX3CL8XX4ATXX3SE2FO5SPXX9CL2XXST2XX7CL2ST3XX21SPFO5XXFO10XXLOXX11CL2LOXX13CL2
  XXLO13XX51EX33XX17UPXX4UPXX2LOUP3LO2UP3LOXXUPXX3UP5XX6UPXXUPXXUPXXUP4XXLOUP4LOLE4LOXX2LO2UP2XX5
  UPLO4XX4LOXX17UP16LO16LE3UPLOLE4XX383CL4XX29CL2XX395UP26LO26XX625CL6XX7CL14XX79CL2XX31CL10XX403
  CL22XX63CL4XX32CL2XX514UP48LO48UPLOUP3LO2UPLOUPLOUPLOUP4LOUPLO2UPLO8UP3LOUPLOUPLOUPLOUPLOUPLOUP
  LOUPLOUPLOUPLOUPLOUPLOUPLOUPLOUPLOUPLOUPLOUPLOUPLOUPLOUPLOUPLOUPLOUPLOUPLOUPLOUPLOUPLOUPLOUPLOUP
  LOUPLOUPLOUPLOUPLOUPLOUPLOUPLOUPLOUPLOUPLOUPLOUPLOUPLOUPLOUPLOUPLOUPLOUPLOUPLO2XX6UPLOUPLOEX3UP
  LOXX12LO38XXLOXX5LOXX2LE56XX7LEXX15EXLE23XX9LE7XXLE7XXLE7XXLE7XXLE7XXLE7XXLE7XXLE7XXEX32CL14XX14
  CL2XX2CL10XX4STLEXX12STXX5CLXX16ST2CL8XX419SPSCSTXX2LE3CL10XX2CL8XXCL3XXLE9EX6XXLE5XX2LE5XX4LE86
  XX2EX2XX2LE3XXLE90XXLE4XX5LE43XXLE94XX17LE32XX48LE16XX512LE6592XX64LE22157XX67LE46XXSTLE269XXST2
  LE16NU10LE2XX20UPLOUPLOUPLOUPLOUPLOUPLOUPLOUPLOUPLOUPLOUPLOUPLOUPLOUPLOUPLOUPLOUPLOUPLOUPLOUPLO
  UPLOUPLOUPLOLEEX4XXEX10XXLEUPLOUPLOUPLOUPLOUPLOUPLOUPLOUPLOUPLOUPLOUPLOUPLOUPLOUPLO3EX2LE80EX2XX
  STXX3STXX31LE9XX2UPLOUPLOUPLOUPLOUPLOUPLOUPLO3UPLOUPLOUPLOUPLOUPLOUPLOUPLOUPLOUPLOUPLOUPLOUPLOUP
  LOUPLOUPLOUPLOUPLOUPLOUPLOUPLOUPLOUPLOUPLOUPLOUPLOUPLOUPLOUPLOUPLOUPLOUPLO10UPLOUPLOUP2LOUPLOUP
  LOUPLOUPLOLEXX2UPLOUPLOLEUPLOUPLO3UPLOUPLOUPLOUPLOUPLOUPLOUPLOUPLOUPLOUPLOUP5LOUP5LOUPLOUPLOUPLO
  UPLOUPLOUPLOUPLOUP4LOUPLOXX5UPLOXXLOXXLOUPLOUPLOXX24LO3UPLOLELO3LE7EXLE3EXLE4EXLE23EX5XX4EXXX19
  LE52XX2ST2XX8EX2LE50EX18XX8ST2NU10XX6EX18LE6XX3LEXXLE2EXNU10LE28EX8XXSTLE23EX13XX12LE29XX3EX4
  LE47EX14XX7ST2XX5LENU10XX6LE5EXLE10NU10LE5XXLE41EX14XX9LE3EXLE8EX2XX2NU10XX3ST3LE23XX3LEEX3LE50
  EXLEEX3LE2EX2LE5EX2LEEXLEXX24LE3XX2LE11EX5ST2LE3EX2XX10LE6XX2LE6XX2LE6XX9LE7XXLE7XXLO43XXLO14XX6
  LO80LE35EX8STEX2XX2NU10XX6LE11172XX12LE23XX4LE49XX8452LE366XX2LE106XX38LO7XX12LO5XX5LEEXLE10XX
  LE13XXLE5XXLEXXLE2XXLE2XXLE108XX33LE363CL2XX16LE64XX2LE54XX40LE12XX4EX16SC2XXSCXX3CL2XX7EX16XX
  SC2XX2CL16XX2CL2XX7SC2ATXX2SCST2SCCL6XX4SCXX12LE5XXLE135XX2FOXXSTXX6CL2XX2SC2ATXXNU10SCXX4STXX
  UP26CLXXCLXX3LO26CLXXCLXXCL2STCL2SCXXLE56EX2LE31XX3LE6XX2LE6XX2LE6XX2LE3XX28FO3XX4LE12XXLE26XX
  LE19XXLE2XXLE15XX2LE14XX34LE123XX69LE53XX136EXXX130LE29XX3LE49XX15EXXX31LE32XX13LE30XX5LE38EX5
  XX5LE30XX2LE36XX4LE8XXLE5XX42UP40LO40LE78XX2NU10XX6UP36XX4LO36XX4LE40XX8LE52XX12UP11XXUP15XXUP7
  XXUP2XXLO11XXLO15XXLO7XXLO2XX67LE311XX9LE22XX10LE8XX24LOLE2LO3XXLO42XXLO9XX69LE6XX2LEXXLE44XXLE2
  XX3LEXX2LE23XX10LE23XX9LE31XX65LE19XXLE2XX10LE22XX10LE26XX70LE56XX6LE2XX64LEEX3XXEX2XX5EX4LE4XX
  LE3XXLE29XX2EX3XX4EXXX22ST2XX8LE29XX3LE29XX35LE8XXLE28EX2XX25LE54XX10LE22XX10LE19XX13LE18XX110
  LE73XX55UP51XX13LO51XX13LE36EX4XX8NU10XX326LE42XXEX2XX3LE2XX75EX3LE29XX10LEXX8LE22EX11XX4ST5XX22
  LE18EX4ST4XX38LE21XX27LE23XX9EX3LE53EX15ST2XX29NU10EXLE2EX2LEXX9EX4LE45EX11XX2FOST4EXXX10FOXX2
  LE25XX7NU10XX6EX3LE36EX14XXNU10XXST3LEEX2LEXX8LE35EXXX2LEXX9EX3LE48EX14LE4ST2XX2EX4STEX2NU10LEXX
  LEXXST2XX32LE18XXLE25EX12ST2XXST2XXEXLE2EXXX62LE7XXLEXXLE4XXLE15XXLE10STXX6LE47EX12XX5NU10XX6EX4
  XXLE8XX2LE2XX2LE22XXLE7XXLE2XXLE5XXEX2LEEX7XX2EX2XX2EX3XX2LEXX6EXXX5LE5EX2XX2EX7XX3EX5XX139LE53
  EX18LE4ST2XX3NU10XX4EXLE3XX30LE48EX20LE2XXLEXX8NU10XX166LE47EX7XX2EX9XXST2XX5ST15LE4EX2XX34LE48
  EX17ST2XXLEXX11NU10XX38LE43EX13LEXX7NU10XX54LE27XX2EX15XX4NU10XX2ST3XXLE7XX185LE44EX15XX101UP32
  LO32NU10XX21LE8XX2LEXX2LE8XXLE2XXLE24EX6XXEX2XX2EX4LEEXLEEX2STXXSTXX9NU10XX70LE8XX2LE39EX7XX2EX7
  LEXXLEEXXX27LEEX10LE40EX7LEEX4XX3ST2XX3EXXX8LEEX11LE46EX16XXST2LEXX18LE73XX263LE9XXLE37EX8XXEX8
  LEST2XX13NU10XX24LE30XX2EX22XXEX14XX73LE7XXLE2XXLE38EX6XX3EXXXEX2XXEX7LEEXXX8NU10XX6LE6XXLE2XX
  LE32EX5XXEX2XXEX5LEXX7NU10XX310LE19EX4ST2XX7EX2LEEXLE13XXLE34EX7XX3EX5ST2XX11NU10XX86LEXX79LE922
  XX102LE111XX17LE196XX2636LE97XX15LE1072FO16EXLE6EX15XX4010LE583XX8633LE569XX7LE31XXNU10XX4ST2
  LE79XXNU10XX6LE30XX2EX5STXX10LE48EX7ST2XX7LE4STXX11NU10XX9LE21XX5LE19XX688UP32LO32XX24STXX103
  LE75XX4EXLEEX55XX7EX4LE13XX64LE2XXLEEXXX11EX2XX14LE6136XX8LE1238XX42LE9XX8935LE4XXLE7XXLE2XX
  LE291XX15LEXX29LE3XX2LEXX14LE4XX8LE396XX2308LE107XX5LE13XX3LE9XX7LE10XX3EX2STFO4XX4700EX46XX2
  EX23XX542EX5XX3EX6FO8EX8XX2EX7XX30EX4XX148EX3XX443UP26LO26UP26LO7XXLO18UP26LO26UPXXUP2XX2UPXX2
  UP2XX2UP4XXUP8LO4XXLOXXLO7XXLO11UP26LO26UP2XXUP4XX2UP8XXUP7XXLO26UP2XXUP4XXUP5XXUPXX3UP7XXLO26
  UP26LO26UP26LO26UP26LO26UP26LO26UP26LO26UP26LO28XX2UP25XXLO25XXLO6UP25XXLO25XXLO6UP25XXLO25XXLO6
  UP25XXLO25XXLO6UP25XXLO25XXLO6UPLOXX2NU50XX512EX55XX4EX50XX8EXXX14EXXX3STXX18EX5XXEX15XX1104LO10
  LELO20XX6LO6XX213EX7XXEX17XX2EX7XXEX2XXEX5XX5LO62XX33EXXX112LE45XX3EX7LE7XX2NU10XX4LEXX321LE30EX
  XX17LE44EX4NU10XX470LE28EX4NU10XX742LE7XXLE4XXLE2XXLE15XXLE197XX11EX7XX41UP34LO34EX7LEXX4NU10
  XX1190LE4XXLE27XXLE2XXLEXX2LEXXLE10XXLE4XXLEXXLEXX6LEXX4LEXXLEXXLEXXLE3XXLE2XXLEXX2LEXXLEXXLEXX
  LEXXLEXXLE2XXLEXX2LE4XXLE7XXLE4XXLE4XXLEXXLE10XXLE17XX5LE3XXLE5XXLE17XX628UP26XX6UP26XX6UP26
  XX1260CL3XX1399NU10XX1030LE42720XX32LE4154XX6LE222XX2LE5762XX14LE7473XX3103LE542XX1506LE4939XX5
  LE4192XX711761FOXX30EX96XX128EX240"

def sentenceValues : List (List String × String) :=
  [(["AT", "ATerm"], "AT"), (["CL", "Close"], "CL"), (["CR"], "CR"), (["EX", "Extend"], "EX"),
    (["FO", "Format"], "FO"), (["LE", "OLetter"], "LE"), (["LF"], "LF"), (["LO", "Lower"], "LO"),
    (["NU", "Numeric"], "NU"), (["SC", "SContinue"], "SC"), (["SE", "Sep"], "SE"),
    (["SP", "Sp"], "SP"), (["ST", "STerm"], "ST"), (["UP", "Upper"], "UP")]

/-- The syllables of Hangul that end in their vowel: the first of each 28. -/
def openSyllables : Ranges :=
  ((List.range 399).map fun i => (0xac00 + 28 * i, 0xac00 + 28 * i)).toArray

def closedSyllables : Ranges :=
  ((List.range 399).map fun i => (0xac01 + 28 * i, 0xac1b + 28 * i)).toArray

end CircuitTrace.Unicode
