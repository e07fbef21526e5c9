import Admissions.Text.Printable

namespace Admissions

namespace Text

def lowerTable : String :=
  "41:5a:1:32,c0:d6:1:32,d8:de:1:32,100:12e:2:1,130:130:1:-199,132:136:2:1,139:147:2:1,14a:176:2:1" ++
  ",178:178:1:-121,179:17d:2:1,181:181:1:210,182:184:2:1,186:186:1:206,187:187:1:1,189:18a:1:205,18b:18b:1:1" ++
  ",18e:18e:1:79,18f:18f:1:202,190:190:1:203,191:191:1:1,193:193:1:205,194:194:1:207,196:196:1:211,197:197:1:209" ++
  ",198:198:1:1,19c:19c:1:211,19d:19d:1:213,19f:19f:1:214,1a0:1a4:2:1,1a6:1a6:1:218,1a7:1a7:1:1,1a9:1a9:1:218" ++
  ",1ac:1ac:1:1,1ae:1ae:1:218,1af:1af:1:1,1b1:1b2:1:217,1b3:1b5:2:1,1b7:1b7:1:219,1b8:1b8:1:1,1bc:1bc:1:1" ++
  ",1c4:1c4:1:2,1c5:1c5:1:1,1c7:1c7:1:2,1c8:1c8:1:1,1ca:1ca:1:2,1cb:1db:2:1,1de:1ee:2:1,1f1:1f1:1:2" ++
  ",1f2:1f4:2:1,1f6:1f6:1:-97,1f7:1f7:1:-56,1f8:21e:2:1,220:220:1:-130,222:232:2:1,23a:23a:1:10795,23b:23b:1:1" ++
  ",23d:23d:1:-163,23e:23e:1:10792,241:241:1:1,243:243:1:-195,244:244:1:69,245:245:1:71,246:24e:2:1,370:372:2:1" ++
  ",376:376:1:1,37f:37f:1:116,386:386:1:38,388:38a:1:37,38c:38c:1:64,38e:38f:1:63,391:3a1:1:32,3a3:3ab:1:32" ++
  ",3cf:3cf:1:8,3d8:3ee:2:1,3f4:3f4:1:-60,3f7:3f7:1:1,3f9:3f9:1:-7,3fa:3fa:1:1,3fd:3ff:1:-130,400:40f:1:80" ++
  ",410:42f:1:32,460:480:2:1,48a:4be:2:1,4c0:4c0:1:15,4c1:4cd:2:1,4d0:52e:2:1,531:556:1:48,10a0:10c5:1:7264" ++
  ",10c7:10c7:1:7264,10cd:10cd:1:7264,13a0:13ef:1:38864,13f0:13f5:1:8,1c89:1c89:1:1,1c90:1cba:1:-3008,1cbd:1cbf:1:-3008,1e00:1e94:2:1" ++
  ",1e9e:1e9e:1:-7615,1ea0:1efe:2:1,1f08:1f0f:1:-8,1f18:1f1d:1:-8,1f28:1f2f:1:-8,1f38:1f3f:1:-8,1f48:1f4d:1:-8,1f59:1f5f:2:-8" ++
  ",1f68:1f6f:1:-8,1f88:1f8f:1:-8,1f98:1f9f:1:-8,1fa8:1faf:1:-8,1fb8:1fb9:1:-8,1fba:1fbb:1:-74,1fbc:1fbc:1:-9,1fc8:1fcb:1:-86" ++
  ",1fcc:1fcc:1:-9,1fd8:1fd9:1:-8,1fda:1fdb:1:-100,1fe8:1fe9:1:-8,1fea:1feb:1:-112,1fec:1fec:1:-7,1ff8:1ff9:1:-128,1ffa:1ffb:1:-126" ++
  ",1ffc:1ffc:1:-9,2126:2126:1:-7517,212a:212a:1:-8383,212b:212b:1:-8262,2132:2132:1:28,2160:216f:1:16,2183:2183:1:1,24b6:24cf:1:26" ++
  ",2c00:2c2f:1:48,2c60:2c60:1:1,2c62:2c62:1:-10743,2c63:2c63:1:-3814,2c64:2c64:1:-10727,2c67:2c6b:2:1,2c6d:2c6d:1:-10780,2c6e:2c6e:1:-10749" ++
  ",2c6f:2c6f:1:-10783,2c70:2c70:1:-10782,2c72:2c72:1:1,2c75:2c75:1:1,2c7e:2c7f:1:-10815,2c80:2ce2:2:1,2ceb:2ced:2:1,2cf2:2cf2:1:1" ++
  ",a640:a66c:2:1,a680:a69a:2:1,a722:a72e:2:1,a732:a76e:2:1,a779:a77b:2:1,a77d:a77d:1:-35332,a77e:a786:2:1,a78b:a78b:1:1" ++
  ",a78d:a78d:1:-42280,a790:a792:2:1,a796:a7a8:2:1,a7aa:a7aa:1:-42308,a7ab:a7ab:1:-42319,a7ac:a7ac:1:-42315,a7ad:a7ad:1:-42305,a7ae:a7ae:1:-42308" ++
  ",a7b0:a7b0:1:-42258,a7b1:a7b1:1:-42282,a7b2:a7b2:1:-42261,a7b3:a7b3:1:928,a7b4:a7c2:2:1,a7c4:a7c4:1:-48,a7c5:a7c5:1:-42307,a7c6:a7c6:1:-35384" ++
  ",a7c7:a7c9:2:1,a7cb:a7cb:1:-42343,a7cc:a7da:2:1,a7dc:a7dc:1:-42561,a7f5:a7f5:1:1,ff21:ff3a:1:32,10400:10427:1:40,104b0:104d3:1:40" ++
  ",10570:1057a:1:39,1057c:1058a:1:39,1058c:10592:1:39,10594:10595:1:39,10c80:10cb2:1:64,10d50:10d65:1:32,118a0:118bf:1:32,16e40:16e5f:1:32" ++
  ",16ea0:16eb8:1:27,1e900:1e921:1:34"

def upperTable : String :=
  "61:7a:1:-32,b5:b5:1:743,e0:f6:1:-32,f8:fe:1:-32,ff:ff:1:121,101:12f:2:-1,131:131:1:-232,133:137:2:-1" ++
  ",13a:148:2:-1,14b:177:2:-1,17a:17e:2:-1,17f:17f:1:-300,180:180:1:195,183:185:2:-1,188:188:1:-1,18c:18c:1:-1" ++
  ",192:192:1:-1,195:195:1:97,199:199:1:-1,19a:19a:1:163,19b:19b:1:42561,19e:19e:1:130,1a1:1a5:2:-1,1a8:1a8:1:-1" ++
  ",1ad:1ad:1:-1,1b0:1b0:1:-1,1b4:1b6:2:-1,1b9:1b9:1:-1,1bd:1bd:1:-1,1bf:1bf:1:56,1c5:1c5:1:-1,1c6:1c6:1:-2" ++
  ",1c8:1c8:1:-1,1c9:1c9:1:-2,1cb:1cb:1:-1,1cc:1cc:1:-2,1ce:1dc:2:-1,1dd:1dd:1:-79,1df:1ef:2:-1,1f2:1f2:1:-1" ++
  ",1f3:1f3:1:-2,1f5:1f5:1:-1,1f9:21f:2:-1,223:233:2:-1,23c:23c:1:-1,23f:240:1:10815,242:242:1:-1,247:24f:2:-1" ++
  ",250:250:1:10783,251:251:1:10780,252:252:1:10782,253:253:1:-210,254:254:1:-206,256:257:1:-205,259:259:1:-202,25b:25b:1:-203" ++
  ",25c:25c:1:42319,260:260:1:-205,261:261:1:42315,263:263:1:-207,264:264:1:42343,265:265:1:42280,266:266:1:42308,268:268:1:-209" ++
  ",269:269:1:-211,26a:26a:1:42308,26b:26b:1:10743,26c:26c:1:42305,26f:26f:1:-211,271:271:1:10749,272:272:1:-213,275:275:1:-214" ++
  ",27d:27d:1:10727,280:280:1:-218,282:282:1:42307,283:283:1:-218,287:287:1:42282,288:288:1:-218,289:289:1:-69,28a:28b:1:-217" ++
  ",28c:28c:1:-71,292:292:1:-219,29d:29d:1:42261,29e:29e:1:42258,345:345:1:84,371:373:2:-1,377:377:1:-1,37b:37d:1:130" ++
  ",3ac:3ac:1:-38,3ad:3af:1:-37,3b1:3c1:1:-32,3c2:3c2:1:-31,3c3:3cb:1:-32,3cc:3cc:1:-64,3cd:3ce:1:-63,3d0:3d0:1:-62" ++
  ",3d1:3d1:1:-57,3d5:3d5:1:-47,3d6:3d6:1:-54,3d7:3d7:1:-8,3d9:3ef:2:-1,3f0:3f0:1:-86,3f1:3f1:1:-80,3f2:3f2:1:7" ++
  ",3f3:3f3:1:-116,3f5:3f5:1:-96,3f8:3f8:1:-1,3fb:3fb:1:-1,430:44f:1:-32,450:45f:1:-80,461:481:2:-1,48b:4bf:2:-1" ++
  ",4c2:4ce:2:-1,4cf:4cf:1:-15,4d1:52f:2:-1,561:586:1:-48,10d0:10fa:1:3008,10fd:10ff:1:3008,13f8:13fd:1:-8,1c80:1c80:1:-6254" ++
  ",1c81:1c81:1:-6253,1c82:1c82:1:-6244,1c83:1c84:1:-6242,1c85:1c85:1:-6243,1c86:1c86:1:-6236,1c87:1c87:1:-6181,1c88:1c88:1:35266,1c8a:1c8a:1:-1" ++
  ",1d79:1d79:1:35332,1d7d:1d7d:1:3814,1d8e:1d8e:1:35384,1e01:1e95:2:-1,1e9b:1e9b:1:-59,1ea1:1eff:2:-1,1f00:1f07:1:8,1f10:1f15:1:8" ++
  ",1f20:1f27:1:8,1f30:1f37:1:8,1f40:1f45:1:8,1f51:1f57:2:8,1f60:1f67:1:8,1f70:1f71:1:74,1f72:1f75:1:86,1f76:1f77:1:100" ++
  ",1f78:1f79:1:128,1f7a:1f7b:1:112,1f7c:1f7d:1:126,1f80:1f87:1:8,1f90:1f97:1:8,1fa0:1fa7:1:8,1fb0:1fb1:1:8,1fb3:1fb3:1:9" ++
  ",1fbe:1fbe:1:-7205,1fc3:1fc3:1:9,1fd0:1fd1:1:8,1fe0:1fe1:1:8,1fe5:1fe5:1:7,1ff3:1ff3:1:9,214e:214e:1:-28,2170:217f:1:-16" ++
  ",2184:2184:1:-1,24d0:24e9:1:-26,2c30:2c5f:1:-48,2c61:2c61:1:-1,2c65:2c65:1:-10795,2c66:2c66:1:-10792,2c68:2c6c:2:-1,2c73:2c73:1:-1" ++
  ",2c76:2c76:1:-1,2c81:2ce3:2:-1,2cec:2cee:2:-1,2cf3:2cf3:1:-1,2d00:2d25:1:-7264,2d27:2d27:1:-7264,2d2d:2d2d:1:-7264,a641:a66d:2:-1" ++
  ",a681:a69b:2:-1,a723:a72f:2:-1,a733:a76f:2:-1,a77a:a77c:2:-1,a77f:a787:2:-1,a78c:a78c:1:-1,a791:a793:2:-1,a794:a794:1:48" ++
  ",a797:a7a9:2:-1,a7b5:a7c3:2:-1,a7c8:a7ca:2:-1,a7cd:a7db:2:-1,a7f6:a7f6:1:-1,ab53:ab53:1:-928,ab70:abbf:1:-38864,ff41:ff5a:1:-32" ++
  ",10428:1044f:1:-40,104d8:104fb:1:-40,10597:105a1:1:-39,105a3:105b1:1:-39,105b3:105b9:1:-39,105bb:105bc:1:-39,10cc0:10cf2:1:-64,10d70:10d85:1:-32" ++
  ",118c0:118df:1:-32,16e60:16e7f:1:-32,16ebb:16ed3:1:-27,1e922:1e943:1:-34"

def foldTable : String :=
  "61:7a:1:-32,e0:f6:1:-32,f8:fe:1:-32,101:12f:2:-1,133:137:2:-1,13a:148:2:-1,14b:177:2:-1,178:178:1:-121" ++
  ",17a:17e:2:-1,17f:17f:1:-300,183:185:2:-1,188:188:1:-1,18c:18c:1:-1,192:192:1:-1,199:199:1:-1,1a1:1a5:2:-1" ++
  ",1a8:1a8:1:-1,1ad:1ad:1:-1,1b0:1b0:1:-1,1b4:1b6:2:-1,1b9:1b9:1:-1,1bd:1bd:1:-1,1c5:1c5:1:-1,1c6:1c6:1:-2" ++
  ",1c8:1c8:1:-1,1c9:1c9:1:-2,1cb:1cb:1:-1,1cc:1cc:1:-2,1ce:1dc:2:-1,1dd:1dd:1:-79,1df:1ef:2:-1,1f2:1f2:1:-1" ++
  ",1f3:1f3:1:-2,1f5:1f5:1:-1,1f6:1f6:1:-97,1f7:1f7:1:-56,1f9:21f:2:-1,220:220:1:-130,223:233:2:-1,23c:23c:1:-1" ++
  ",23d:23d:1:-163,242:242:1:-1,243:243:1:-195,247:24f:2:-1,253:253:1:-210,254:254:1:-206,256:257:1:-205,259:259:1:-202" ++
  ",25b:25b:1:-203,260:260:1:-205,263:263:1:-207,268:268:1:-209,269:269:1:-211,26f:26f:1:-211,272:272:1:-213,275:275:1:-214" ++
  ",280:280:1:-218,283:283:1:-218,288:288:1:-218,289:289:1:-69,28a:28b:1:-217,28c:28c:1:-71,292:292:1:-219,371:373:2:-1" ++
  ",377:377:1:-1,399:399:1:-84,39c:39c:1:-743,3ac:3ac:1:-38,3ad:3af:1:-37,3b1:3b8:1:-32,3b9:3b9:1:-116,3ba:3bb:1:-32" ++
  ",3bc:3bc:1:-775,3bd:3c1:1:-32,3c2:3c2:1:-31,3c3:3cb:1:-32,3cc:3cc:1:-64,3cd:3ce:1:-63,3d0:3d0:1:-62,3d1:3d1:1:-57" ++
  ",3d5:3d5:1:-47,3d6:3d6:1:-54,3d7:3d7:1:-8,3d9:3ef:2:-1,3f0:3f0:1:-86,3f1:3f1:1:-80,3f3:3f3:1:-116,3f4:3f4:1:-92" ++
  ",3f5:3f5:1:-96,3f8:3f8:1:-1,3f9:3f9:1:-7,3fb:3fb:1:-1,3fd:3ff:1:-130,430:44f:1:-32,450:45f:1:-80,461:481:2:-1" ++
  ",48b:4bf:2:-1,4c2:4ce:2:-1,4cf:4cf:1:-15,4d1:52f:2:-1,561:586:1:-48,13f8:13fd:1:-8,1c80:1c80:1:-6254,1c81:1c81:1:-6253" ++
  ",1c82:1c82:1:-6244,1c83:1c84:1:-6242,1c85:1c85:1:-6243,1c86:1c86:1:-6236,1c87:1c87:1:-6181,1c8a:1c8a:1:-1,1c90:1cba:1:-3008,1cbd:1cbf:1:-3008" ++
  ",1e01:1e95:2:-1,1e9b:1e9b:1:-59,1e9e:1e9e:1:-7615,1ea1:1eff:2:-1,1f08:1f0f:1:-8,1f18:1f1d:1:-8,1f28:1f2f:1:-8,1f38:1f3f:1:-8" ++
  ",1f48:1f4d:1:-8,1f59:1f5f:2:-8,1f68:1f6f:1:-8,1f88:1f8f:1:-8,1f98:1f9f:1:-8,1fa8:1faf:1:-8,1fb8:1fb9:1:-8,1fba:1fbb:1:-74" ++
  ",1fbc:1fbc:1:-9,1fbe:1fbe:1:-7289,1fc8:1fcb:1:-86,1fcc:1fcc:1:-9,1fd3:1fd3:1:-7235,1fd8:1fd9:1:-8,1fda:1fdb:1:-100,1fe3:1fe3:1:-7219" ++
  ",1fe8:1fe9:1:-8,1fea:1feb:1:-112,1fec:1fec:1:-7,1ff8:1ff9:1:-128,1ffa:1ffb:1:-126,1ffc:1ffc:1:-9,2126:2126:1:-7549,212a:212a:1:-8415" ++
  ",212b:212b:1:-8294,214e:214e:1:-28,2170:217f:1:-16,2184:2184:1:-1,24d0:24e9:1:-26,2c30:2c5f:1:-48,2c61:2c61:1:-1,2c62:2c62:1:-10743" ++
  ",2c63:2c63:1:-3814,2c64:2c64:1:-10727,2c65:2c65:1:-10795,2c66:2c66:1:-10792,2c68:2c6c:2:-1,2c6d:2c6d:1:-10780,2c6e:2c6e:1:-10749,2c6f:2c6f:1:-10783" ++
  ",2c70:2c70:1:-10782,2c73:2c73:1:-1,2c76:2c76:1:-1,2c7e:2c7f:1:-10815,2c81:2ce3:2:-1,2cec:2cee:2:-1,2cf3:2cf3:1:-1,2d00:2d25:1:-7264" ++
  ",2d27:2d27:1:-7264,2d2d:2d2d:1:-7264,a641:a649:2:-1,a64a:a64a:1:-35266,a64b:a64b:1:-35267,a64d:a66d:2:-1,a681:a69b:2:-1,a723:a72f:2:-1" ++
  ",a733:a76f:2:-1,a77a:a77c:2:-1,a77d:a77d:1:-35332,a77f:a787:2:-1,a78c:a78c:1:-1,a78d:a78d:1:-42280,a791:a793:2:-1,a797:a7a9:2:-1" ++
  ",a7aa:a7aa:1:-42308,a7ab:a7ab:1:-42319,a7ac:a7ac:1:-42315,a7ad:a7ad:1:-42305,a7ae:a7ae:1:-42308,a7b0:a7b0:1:-42258,a7b1:a7b1:1:-42282,a7b2:a7b2:1:-42261" ++
  ",a7b5:a7c3:2:-1,a7c4:a7c4:1:-48,a7c5:a7c5:1:-42307,a7c6:a7c6:1:-35384,a7c8:a7ca:2:-1,a7cb:a7cb:1:-42343,a7cd:a7db:2:-1,a7dc:a7dc:1:-42561" ++
  ",a7f6:a7f6:1:-1,ab53:ab53:1:-928,ab70:abbf:1:-38864,fb06:fb06:1:-1,ff41:ff5a:1:-32,10428:1044f:1:-40,104d8:104fb:1:-40,10597:105a1:1:-39" ++
  ",105a3:105b1:1:-39,105b3:105b9:1:-39,105bb:105bc:1:-39,10cc0:10cf2:1:-64,10d70:10d85:1:-32,118c0:118df:1:-32,16e60:16e7f:1:-32,16ebb:16ed3:1:-27" ++
  ",1e922:1e943:1:-34"

/-- The value of a signed decimal numeral; anything else counts as zero. -/
def signedValue (s : String) : Int :=
  match s.toList with
  | '-' :: ds => -((ds.foldl (fun v d => 10 * v + (d.toNat - 48)) 0 : Nat) : Int)
  | ds => ((ds.foldl (fun v d => 10 * v + (d.toNat - 48)) 0 : Nat) : Int)

/-- A run of code points that shift by the same amount. -/
structure CaseRun where
  low : Nat
  high : Nat
  step : Nat
  shift : Int
  deriving Inhabited

def readRuns (table : String) : Array CaseRun :=
  ((table.splitOn ",").filterMap fun r =>
    match r.splitOn ":" with
    | [a, b, st, d] => some ⟨hexValue a, hexValue b, hexValue st, signedValue d⟩
    | _ => none).toArray

def lowerRuns : Array CaseRun := readRuns lowerTable

def upperRuns : Array CaseRun := readRuns upperTable

def foldRuns : Array CaseRun := readRuns foldTable

def mapByRuns (runs : Array CaseRun) (c : Char) : Char :=
  let v := c.toNat
  match runs.find? fun r => r.low ≤ v ∧ v ≤ r.high ∧ (v - r.low) % r.step = 0 with
  | some r => Char.ofNat (v + r.shift).toNat
  | none => c

def lowerRune (c : Char) : Char :=
  if c.toNat < 0x80 then (if 'A' ≤ c ∧ c ≤ 'Z' then Char.ofNat (c.toNat + 32) else c)
  else mapByRuns lowerRuns c

def upperRune (c : Char) : Char :=
  if c.toNat < 0x80 then (if 'a' ≤ c ∧ c ≤ 'z' then Char.ofNat (c.toNat - 32) else c)
  else mapByRuns upperRuns c

/-- The least character a character folds together with: the upper case of an
ASCII letter, and for others the least member of its folding class. -/
def foldRune (c : Char) : Char :=
  if c.toNat < 0x80 then (if 'a' ≤ c ∧ c ≤ 'z' then Char.ofNat (c.toNat - 32) else c)
  else mapByRuns foldRuns c

/-- The code points a character folds together with, itself included: the least
member of its folding class and every code point the folding table maps to it. -/
def foldOrbit (c : Char) : List Nat :=
  let r := (foldRune c).toNat
  let others := foldRuns.toList.filterMap fun run =>
    let v : Int := (r : Int) - run.shift
    if (run.low : Int) ≤ v ∧ v ≤ run.high ∧ (v.toNat - run.low) % run.step = 0 then some v.toNat
    else none
  r :: others

def toLower (s : String) : String := String.ofList (s.toList.map lowerRune)

def toUpper (s : String) : String := String.ofList (s.toList.map upperRune)

/-- The text folded: every character replaced by the least one it folds with. -/
def fold (s : String) : String := String.ofList (s.toList.map foldRune)

/-- Whether two texts are equal without regard to case. -/
def equalFold (a b : String) : Bool := fold a == fold b

end Text

end Admissions
