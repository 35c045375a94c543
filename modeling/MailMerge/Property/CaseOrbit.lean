/-
# Characters that differ in case only

Simple case folding relates a character to those that differ from it in case only.  They
form a cycle, in which every character leads to the next.  The table is that of version
16 of the Unicode Standard.
-/

import MailMerge.Text.Case

namespace MailMerge
namespace Property

open Text (Run)

/-- The next character in the cycle. -/
def orbitRuns : List Run := Run.ofTable
   ["41-5a:20 61-6a:-20 6b:20bf 6c-7a/2:-20 6d-71/2:-20 73:10c 75-79/2:-20 b5:2e7 c0-d6:20",
    "d8-de:20 df:1dbf e0-fe/2:-20 e1-e3/2:-20 e5:2046 e7-f5/2:-20 f9-fd/2:-20 ff:79 100-12e/2:1",
    "101-12f/2:-1 132-136/2:1 133-137/2:-1 139-147/2:1 13a-148/2:-1 14a-176/2:1 14b-177/2:-1",
    "178:-79 179-17d/2:1 17a-17e/2:-1 17f:-12c 180:c3 181:d2 182-184/2:1 183-185/2:-1 186:ce",
    "187:1 188:-1 189-18a:cd 18b:1 18c:-1 18e:4f 18f:ca 190:cb 191:1 192:-1 193:cd 194:cf 195:61",
    "196:d3 197:d1 198:1 199:-1 19a:a3 19b:a641 19c:d3 19d:d5 19e:82 19f:d6 1a0-1a4/2:1",
    "1a1-1a5/2:-1 1a6:da 1a7:1 1a8:-1 1a9:da 1ac:1 1ad:-1 1ae:da 1af:1 1b0:-1 1b1-1b2:d9",
    "1b3-1b5/2:1 1b4-1b6/2:-1 1b7:db 1b8:1 1b9:-1 1bc:1 1bd:-1 1bf:38 1c4-1c5:1 1c6:-2 1c7-1c8:1",
    "1c9:-2 1ca-1cb:1 1cc:-2 1cd-1db/2:1 1ce-1dc/2:-1 1dd:-4f 1de-1ee/2:1 1df-1ef/2:-1 1f1-1f2:1",
    "1f3:-2 1f4:1 1f5:-1 1f6:-61 1f7:-38 1f8-21e/2:1 1f9-21f/2:-1 220:-82 222-232/2:1",
    "223-233/2:-1 23a:2a2b 23b:1 23c:-1 23d:-a3 23e:2a28 23f-240:2a3f 241:1 242:-1 243:-c3",
    "244:45 245:47 246-24e/2:1 247-24f/2:-1 250:2a1f 251:2a1c 252:2a1e 253:-d2 254:-ce",
    "256-257:-cd 259:-ca 25b:-cb 25c:a54f 260:-cd 261:a54b 263:-cf 264:a567 265:a528 266:a544",
    "268:-d1 269:-d3 26a:a544 26b:29f7 26c:a541 26f:-d3 271:29fd 272:-d5 275:-d6 27d:29e7",
    "280:-da 282:a543 283:-da 287:a52a 288:-da 289:-45 28a-28b:-d9 28c:-47 292:-db 29d:a515",
    "29e:a512 345:54 370-372/2:1 371-373/2:-1 376:1 377:-1 37b-37d:82 37f:74 386:26 388-38a:25",
    "38c:40 38e-38f:3f 390:1c43 391-3a1:20 3a3:1f 3a4-3ab:20 3ac:-26 3ad-3af:-25 3b0:1c33",
    "3b1-3b3/2:-20 3b2:1e 3b4-3b6/2:-20 3b5:40 3b7:-20 3b8:19 3b9:1c05 3ba:36 3bb-3bf/2:-20",
    "3bc:-307 3be:-20 3c0:16 3c1:30 3c2:1 3c3-3c5:-20 3c6:f 3c7-3c8:-20 3c9:1d5d 3ca-3cb:-20",
    "3cc:-40 3cd-3ce:-3f 3cf:8 3d0:-3e 3d1:23 3d5:-2f 3d6:-36 3d7:-8 3d8-3ee/2:1 3d9-3ef/2:-1",
    "3f0:-56 3f1:-50 3f2:7 3f3:-74 3f4:-5c 3f5:-60 3f7:1 3f8:-1 3f9:-7 3fa:1 3fb:-1 3fd-3ff:-82",
    "400-40f:50 410-42f:20 430-431:-20 432:184e 433-43f/2:-20 434:184d 436-43c/2:-20 43e:1844",
    "440:-20 441-442:1842 443-449:-20 44a:183c 44b-44f:-20 450-45f:-50 460-480/2:1 461:-1",
    "463:1824 465-481/2:-1 48a-4be/2:1 48b-4bf/2:-1 4c0:f 4c1-4cd/2:1 4c2-4ce/2:-1 4cf:-f",
    "4d0-52e/2:1 4d1-52f/2:-1 531-556:30 561-586:-30 10a0-10c5:1c60 10c7:1c60 10cd:1c60",
    "10d0-10fa:bc0 10fd-10ff:bc0 13a0-13ef:97d0 13f0-13f5:8 13f8-13fd:-8 1c80:-186e 1c81:-186d",
    "1c82:-1864 1c83:-1862 1c84:1 1c85:-1863 1c86:-185c 1c87:-1825 1c88:89c2 1c89:1 1c8a:-1",
    "1c90-1cba:-bc0 1cbd-1cbf:-bc0 1d79:8a04 1d7d:ee6 1d8e:8a38 1e00-1e94/2:1 1e01-1e5f/2:-1",
    "1e61:3a 1e63-1e95/2:-1 1e9b:-3b 1e9e:-1dbf 1ea0-1efe/2:1 1ea1-1eff/2:-1 1f00-1f07:8",
    "1f08-1f0f:-8 1f10-1f15:8 1f18-1f1d:-8 1f20-1f27:8 1f28-1f2f:-8 1f30-1f37:8 1f38-1f3f:-8",
    "1f40-1f45:8 1f48-1f4d:-8 1f51-1f57/2:8 1f59-1f5f/2:-8 1f60-1f67:8 1f68-1f6f:-8 1f70-1f71:4a",
    "1f72-1f75:56 1f76-1f77:64 1f78-1f79:80 1f7a-1f7b:70 1f7c-1f7d:7e 1f80-1f87:8 1f88-1f8f:-8",
    "1f90-1f97:8 1f98-1f9f:-8 1fa0-1fa7:8 1fa8-1faf:-8 1fb0-1fb1:8 1fb3:9 1fb8-1fb9:-8",
    "1fba-1fbb:-4a 1fbc:-9 1fbe:-1c79 1fc3:9 1fc8-1fcb:-56 1fcc:-9 1fd0-1fd1:8 1fd3:-1c43",
    "1fd8-1fd9:-8 1fda-1fdb:-64 1fe0-1fe1:8 1fe3:-1c33 1fe5:7 1fe8-1fe9:-8 1fea-1feb:-70 1fec:-7",
    "1ff3:9 1ff8-1ff9:-80 1ffa-1ffb:-7e 1ffc:-9 2126:-1d7d 212a:-20df 212b:-2066 2132:1c",
    "214e:-1c 2160-216f:10 2170-217f:-10 2183:1 2184:-1 24b6-24cf:1a 24d0-24e9:-1a 2c00-2c2f:30",
    "2c30-2c5f:-30 2c60:1 2c61:-1 2c62:-29f7 2c63:-ee6 2c64:-29e7 2c65:-2a2b 2c66:-2a28",
    "2c67-2c6b/2:1 2c68-2c6c/2:-1 2c6d:-2a1c 2c6e:-29fd 2c6f:-2a1f 2c70:-2a1e 2c72:1 2c73:-1",
    "2c75:1 2c76:-1 2c7e-2c7f:-2a3f 2c80-2ce2/2:1 2c81-2ce3/2:-1 2ceb-2ced/2:1 2cec-2cee/2:-1",
    "2cf2:1 2cf3:-1 2d00-2d25:-1c60 2d27:-1c60 2d2d:-1c60 a640-a66c/2:1 a641-a649/2:-1",
    "a64b:-89c3 a64d-a66d/2:-1 a680-a69a/2:1 a681-a69b/2:-1 a722-a72e/2:1 a723-a72f/2:-1",
    "a732-a76e/2:1 a733-a76f/2:-1 a779-a77b/2:1 a77a-a77c/2:-1 a77d:-8a04 a77e-a786/2:1",
    "a77f-a787/2:-1 a78b:1 a78c:-1 a78d:-a528 a790-a792/2:1 a791-a793/2:-1 a794:30 a796-a7a8/2:1",
    "a797-a7a9/2:-1 a7aa:-a544 a7ab:-a54f a7ac:-a54b a7ad:-a541 a7ae:-a544 a7b0:-a512 a7b1:-a52a",
    "a7b2:-a515 a7b3:3a0 a7b4-a7c2/2:1 a7b5-a7c3/2:-1 a7c4:-30 a7c5:-a543 a7c6:-8a38",
    "a7c7-a7c9/2:1 a7c8-a7ca/2:-1 a7cb:-a567 a7cc:1 a7cd:-1 a7d0:1 a7d1:-1 a7d6-a7da/2:1",
    "a7d7-a7db/2:-1 a7dc:-a641 a7f5:1 a7f6:-1 ab53:-3a0 ab70-abbf:-97d0 fb05:1 fb06:-1",
    "ff21-ff3a:20 ff41-ff5a:-20 10400-10427:28 10428-1044f:-28 104b0-104d3:28 104d8-104fb:-28",
    "10570-10594/2:27 10571-10579/2:27 1057d-10589/2:27 1058d-10591/2:27 10595:27",
    "10597-105bb/2:-27 10598-105a0/2:-27 105a4-105b0/2:-27 105b4-105b8/2:-27 105bc:-27",
    "10c80-10cb2:40 10cc0-10cf2:-40 10d50-10d65:20 10d70-10d85:-20 118a0-118bf:20",
    "118c0-118df:-20 16e40-16e5f:20 16e60-16e7f:-20 1e900-1e921:22 1e922-1e943:-22"]

/-- The characters that differ from `c` in case only, `c` first. -/
def caseOrbit (c : Char) : List Char :=
  let rec follow : Nat → Nat → List Char
    | 0, _ => []
    | fuel + 1, n =>
      let m := Run.apply orbitRuns n
      if m = c.toNat then [] else Char.ofNat m :: follow fuel m
  c :: follow 4 c.toNat

end Property
end MailMerge
