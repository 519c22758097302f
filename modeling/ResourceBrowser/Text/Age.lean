import ResourceBrowser.Text.CodeSet

/-!
# Ages of characters

The version of the standard in which each character first appeared. `N` marks code points
without a character.
-/

namespace ResourceBrowser.Text

/-- Runs of characters of equal age: first code point and version. -/
def ageLines : List String := [
  "0V1.1 1f6V3.0 1faV1.1 218V3.0 220V3.2 221V4.0 222V3.0 234V4.0 237V4.1 242V5.0 250V1.1",
  "2a9V3.0 2aeV4.0 2b0V1.1 2dfV3.0 2e0V1.1 2eaV3.0 2efV4.0 300V1.1 346V3.0 34fV3.2 350V4.0",
  "358V4.1 35dV4.0 360V1.1 362V3.0 363V3.2 370V5.1 374V1.1 376V5.1 378N 37aV1.1 37bV5.0 37eV1.1",
  "37fV7.0 380N 384V1.1 38bN 38cV1.1 38dN 38eV1.1 3a2N 3a3V1.1 3cfV5.1 3d0V1.1 3d7V3.0 3d8V3.2",
  "3daV1.1 3dbV3.0 3dcV1.1 3ddV3.0 3deV1.1 3dfV3.0 3e0V1.1 3e1V3.0 3e2V1.1 3f4V3.1 3f6V3.2",
  "3f7V4.0 3fcV4.1 400V3.0 401V1.1 40dV3.0 40eV1.1 450V3.0 451V1.1 45dV3.0 45eV1.1 487V5.1",
  "488V3.0 48aV3.2 48cV3.0 490V1.1 4c5V3.2 4c7V1.1 4c9V3.2 4cbV1.1 4cdV3.2 4cfV5.0 4d0V1.1",
  "4ecV3.0 4eeV1.1 4f6V4.1 4f8V1.1 4faV5.0 500V3.2 510V5.0 514V5.1 524V5.2 526V6.0 528V7.0 530N",
  "531V1.1 557N 559V1.1 560V11.0 561V1.1 588V11.0 589V1.1 58aV3.0 58bN 58dV7.0 58fV6.1 590N",
  "591V2.0 5a2V4.1 5a3V2.0 5b0V1.1 5baV5.0 5bbV1.1 5c4V2.0 5c5V4.1 5c8N 5d0V1.1 5ebN 5efV11.0",
  "5f0V1.1 5f5N 600V4.0 604V6.1 605V7.0 606V5.1 60bV4.1 60cV1.1 60dV4.0 616V5.1 61bV1.1 61cV6.3",
  "61dV14.0 61eV4.1 61fV1.1 620V6.0 621V1.1 63bV5.1 640V1.1 653V3.0 656V4.0 659V4.1 65fV6.0",
  "660V1.1 66eV3.2 670V1.1 6b8V3.0 6baV1.1 6bfV3.0 6c0V1.1 6cfV3.0 6d0V1.1 6eeV4.0 6f0V1.1",
  "6faV3.0 6ffV4.0 700V3.0 70eN 70fV3.0 72dV4.0 730V3.0 74bN 74dV4.0 750V4.1 76eV5.1 780V3.0",
  "7b1V3.2 7b2N 7c0V5.0 7fbN 7fdV11.0 800V5.2 82eN 830V5.2 83fN 840V6.0 85cN 85eV6.0 85fN",
  "860V10.0 86bN 870V14.0 88fN 890V14.0 892N 897V16.0 898V14.0 8a0V6.1 8a1V7.0 8a2V6.1 8adV7.0",
  "8b3V8.0 8b5V14.0 8b6V9.0 8beV13.0 8c8V14.0 8d3V11.0 8d4V9.0 8e3V8.0 8e4V6.1 8ffV7.0 900V5.2",
  "901V1.1 904V4.0 905V1.1 93aV6.0 93cV1.1 94eV5.2 94fV6.0 950V1.1 955V5.2 956V6.0 958V1.1",
  "971V5.1 973V6.0 978V7.0 979V5.2 97bV5.0 97dV4.1 97eV5.0 980V7.0 981V1.1 984N 985V1.1 98dN",
  "98fV1.1 991N 993V1.1 9a9N 9aaV1.1 9b1N 9b2V1.1 9b3N 9b6V1.1 9baN 9bcV1.1 9bdV4.0 9beV1.1",
  "9c5N 9c7V1.1 9c9N 9cbV1.1 9ceV4.1 9cfN 9d7V1.1 9d8N 9dcV1.1 9deN 9dfV1.1 9e4N 9e6V1.1",
  "9fbV5.2 9fcV10.0 9feV11.0 9ffN a01V4.0 a02V1.1 a03V4.0 a04N a05V1.1 a0bN a0fV1.1 a11N",
  "a13V1.1 a29N a2aV1.1 a31N a32V1.1 a34N a35V1.1 a37N a38V1.1 a3aN a3cV1.1 a3dN a3eV1.1 a43N",
  "a47V1.1 a49N a4bV1.1 a4eN a51V5.1 a52N a59V1.1 a5dN a5eV1.1 a5fN a66V1.1 a75V5.1 a76V11.0",
  "a77N a81V1.1 a84N a85V1.1 a8cV4.0 a8dV1.1 a8eN a8fV1.1 a92N a93V1.1 aa9N aaaV1.1 ab1N",
  "ab2V1.1 ab4N ab5V1.1 abaN abcV1.1 ac6N ac7V1.1 acaN acbV1.1 aceN ad0V1.1 ad1N ae0V1.1",
  "ae1V4.0 ae4N ae6V1.1 af0V6.1 af1V4.0 af2N af9V8.0 afaV10.0 b00N b01V1.1 b04N b05V1.1 b0dN",
  "b0fV1.1 b11N b13V1.1 b29N b2aV1.1 b31N b32V1.1 b34N b35V4.0 b36V1.1 b3aN b3cV1.1 b44V5.1",
  "b45N b47V1.1 b49N b4bV1.1 b4eN b55V13.0 b56V1.1 b58N b5cV1.1 b5eN b5fV1.1 b62V5.1 b64N",
  "b66V1.1 b71V4.0 b72V6.0 b78N b82V1.1 b84N b85V1.1 b8bN b8eV1.1 b91N b92V1.1 b96N b99V1.1",
  "b9bN b9cV1.1 b9dN b9eV1.1 ba0N ba3V1.1 ba5N ba8V1.1 babN baeV1.1 bb6V4.1 bb7V1.1 bbaN",
  "bbeV1.1 bc3N bc6V1.1 bc9N bcaV1.1 bceN bd0V5.1 bd1N bd7V1.1 bd8N be6V4.1 be7V1.1 bf3V4.0",
  "bfbN c00V7.0 c01V1.1 c04V11.0 c05V1.1 c0dN c0eV1.1 c11N c12V1.1 c29N c2aV1.1 c34V7.0 c35V1.1",
  "c3aN c3cV14.0 c3dV5.1 c3eV1.1 c45N c46V1.1 c49N c4aV1.1 c4eN c55V1.1 c57N c58V5.1 c5aV8.0",
  "c5bN c5dV14.0 c5eN c60V1.1 c62V5.1 c64N c66V1.1 c70N c77V12.0 c78V5.1 c80V9.0 c81V7.0",
  "c82V1.1 c84V11.0 c85V1.1 c8dN c8eV1.1 c91N c92V1.1 ca9N caaV1.1 cb4N cb5V1.1 cbaN cbcV4.0",
  "cbeV1.1 cc5N cc6V1.1 cc9N ccaV1.1 cceN cd5V1.1 cd7N cddV14.0 cdeV1.1 cdfN ce0V1.1 ce2V5.0",
  "ce4N ce6V1.1 cf0N cf1V5.0 cf3V15.0 cf4N d00V10.0 d01V7.0 d02V1.1 d04V13.0 d05V1.1 d0dN",
  "d0eV1.1 d11N d12V1.1 d29V6.0 d2aV1.1 d3aV6.0 d3bV10.0 d3dV5.1 d3eV1.1 d44V5.1 d45N d46V1.1",
  "d49N d4aV1.1 d4eV6.0 d4fV9.0 d50N d54V9.0 d57V1.1 d58V9.0 d5fV8.0 d60V1.1 d62V5.1 d64N",
  "d66V1.1 d70V5.1 d76V9.0 d79V5.1 d80N d81V13.0 d82V3.0 d84N d85V3.0 d97N d9aV3.0 db2N db3V3.0",
  "dbcN dbdV3.0 dbeN dc0V3.0 dc7N dcaV3.0 dcbN dcfV3.0 dd5N dd6V3.0 dd7N dd8V3.0 de0N de6V7.0",
  "df0N df2V3.0 df5N e01V1.1 e3bN e3fV1.1 e5cN e81V1.1 e83N e84V1.1 e85N e86V12.0 e87V1.1",
  "e89V12.0 e8aV1.1 e8bN e8cV12.0 e8dV1.1 e8eV12.0 e94V1.1 e98V12.0 e99V1.1 ea0V12.0 ea1V1.1",
  "ea4N ea5V1.1 ea6N ea7V1.1 ea8V12.0 eaaV1.1 eacV12.0 eadV1.1 ebaV12.0 ebbV1.1 ebeN ec0V1.1",
  "ec5N ec6V1.1 ec7N ec8V1.1 eceV15.0 ecfN ed0V1.1 edaN edcV1.1 edeV6.1 ee0N f00V2.0 f48N",
  "f49V2.0 f6aV3.0 f6bV5.1 f6dN f71V2.0 f8cV6.0 f90V2.0 f96V3.0 f97V2.0 f98N f99V2.0 faeV3.0",
  "fb1V2.0 fb8V3.0 fb9V2.0 fbaV3.0 fbdN fbeV3.0 fcdN fceV5.1 fcfV3.0 fd0V4.1 fd2V5.1 fd5V5.2",
  "fd9V6.0 fdbN 1000V3.0 1022V5.1 1023V3.0 1028V5.1 1029V3.0 102bV5.1 102cV3.0 1033V5.1",
  "1036V3.0 103aV5.1 1040V3.0 105aV5.1 109aV5.2 109eV5.1 10a0V1.1 10c6N 10c7V6.1 10c8N 10cdV6.1",
  "10ceN 10d0V1.1 10f7V3.2 10f9V4.1 10fbV1.1 10fcV4.1 10fdV6.1 1100V1.1 115aV5.2 115fV1.1",
  "11a3V5.2 11a8V1.1 11faV5.2 1200V3.0 1207V4.1 1208V3.0 1247V4.1 1248V3.0 1249N 124aV3.0 124eN",
  "1250V3.0 1257N 1258V3.0 1259N 125aV3.0 125eN 1260V3.0 1287V4.1 1288V3.0 1289N 128aV3.0 128eN",
  "1290V3.0 12afV4.1 12b0V3.0 12b1N 12b2V3.0 12b6N 12b8V3.0 12bfN 12c0V3.0 12c1N 12c2V3.0 12c6N",
  "12c8V3.0 12cfV4.1 12d0V3.0 12d7N 12d8V3.0 12efV4.1 12f0V3.0 130fV4.1 1310V3.0 1311N 1312V3.0",
  "1316N 1318V3.0 131fV4.1 1320V3.0 1347V4.1 1348V3.0 135bN 135dV6.0 135fV4.1 1361V3.0 137dN",
  "1380V4.1 139aN 13a0V3.0 13f5V8.0 13f6N 13f8V8.0 13feN 1400V5.2 1401V3.0 1677V5.2 1680V3.0",
  "169dN 16a0V3.0 16f1V7.0 16f9N 1700V3.2 170dV14.0 170eV3.2 1715V14.0 1716N 171fV14.0 1720V3.2",
  "1737N 1740V3.2 1754N 1760V3.2 176dN 176eV3.2 1771N 1772V3.2 1774N 1780V3.0 17ddV4.0 17deN",
  "17e0V3.0 17eaN 17f0V4.0 17faN 1800V3.0 180fV14.0 1810V3.0 181aN 1820V3.0 1878V11.0 1879N",
  "1880V3.0 18aaV5.1 18abN 18b0V5.2 18f6N 1900V4.0 191dV7.0 191fN 1920V4.0 192cN 1930V4.0 193cN",
  "1940V4.0 1941N 1944V4.0 196eN 1970V4.0 1975N 1980V4.1 19aaV5.2 19acN 19b0V4.1 19caN 19d0V4.1",
  "19daV5.2 19dbN 19deV4.1 19e0V4.0 1a00V4.1 1a1cN 1a1eV4.1 1a20V5.2 1a5fN 1a60V5.2 1a7dN",
  "1a7fV5.2 1a8aN 1a90V5.2 1a9aN 1aa0V5.2 1aaeN 1ab0V7.0 1abfV13.0 1ac1V14.0 1acfN 1b00V5.0",
  "1b4cV14.0 1b4dN 1b4eV16.0 1b50V5.0 1b7dV14.0 1b7fV16.0 1b80V5.1 1babV6.1 1baeV5.1 1bbaV6.1",
  "1bc0V6.0 1bf4N 1bfcV6.0 1c00V5.1 1c38N 1c3bV5.1 1c4aN 1c4dV5.1 1c80V9.0 1c89V16.0 1c8bN",
  "1c90V11.0 1cbbN 1cbdV11.0 1cc0V6.1 1cc8N 1cd0V5.2 1cf3V6.1 1cf7V10.0 1cf8V7.0 1cfaV12.0",
  "1cfbN 1d00V4.0 1d6cV4.1 1dc4V5.0 1dcbV5.1 1de7V7.0 1df6V10.0 1dfaV14.0 1dfbV9.0 1dfcV6.0",
  "1dfdV5.2 1dfeV5.0 1e00V1.1 1e9bV2.0 1e9cV5.1 1ea0V1.1 1efaV5.1 1f00V1.1 1f16N 1f18V1.1 1f1eN",
  "1f20V1.1 1f46N 1f48V1.1 1f4eN 1f50V1.1 1f58N 1f59V1.1 1f5aN 1f5bV1.1 1f5cN 1f5dV1.1 1f5eN",
  "1f5fV1.1 1f7eN 1f80V1.1 1fb5N 1fb6V1.1 1fc5N 1fc6V1.1 1fd4N 1fd6V1.1 1fdcN 1fddV1.1 1ff0N",
  "1ff2V1.1 1ff5N 1ff6V1.1 1fffN 2000V1.1 202fV3.0 2030V1.1 2047V3.2 2048V3.0 204eV3.2 2053V4.0",
  "2055V4.1 2057V3.2 2058V4.1 205fV3.2 2064V5.1 2065N 2066V6.3 206aV1.1 2071V3.2 2072N 2074V1.1",
  "208fN 2090V4.1 2095V6.0 209dN 20a0V1.1 20abV2.0 20acV2.1 20adV3.0 20b0V3.2 20b2V4.1 20b6V5.2",
  "20b9V6.0 20baV6.2 20bbV7.0 20beV8.0 20bfV10.0 20c0V14.0 20c1N 20d0V1.1 20e2V3.0 20e4V3.2",
  "20ebV4.1 20ecV5.0 20f0V5.1 20f1N 2100V1.1 2139V3.0 213bV4.0 213cV4.1 213dV3.2 214cV4.1",
  "214dV5.0 214fV5.1 2150V5.2 2153V1.1 2183V3.0 2184V5.0 2185V5.1 2189V5.2 218aV8.0 218cN",
  "2190V1.1 21ebV3.0 21f4V3.2 2200V1.1 22f2V3.2 2300V1.1 2301V3.0 2302V1.1 237bV3.0 237cV3.2",
  "237dV3.0 239bV3.2 23cfV4.0 23d1V4.1 23dcV5.0 23e8V5.2 23e9V6.0 23f4V7.0 23fbV9.0 23ffV10.0",
  "2400V1.1 2425V3.0 2427V16.0 242aN 2440V1.1 244bN 2460V1.1 24ebV3.2 24ffV4.0 2500V1.1",
  "2596V3.2 25a0V1.1 25f0V3.0 25f8V3.2 2600V1.1 2614V4.0 2616V3.2 2618V4.1 2619V3.0 261aV1.1",
  "2670V3.0 2672V3.2 267eV4.1 2680V3.2 268aV4.0 2692V4.1 269dV5.1 269eV5.2 26a0V4.0 26a2V4.1",
  "26b2V5.0 26b3V5.1 26bdV5.2 26c0V5.1 26c4V5.2 26ceV6.0 26cfV5.2 26e2V6.0 26e3V5.2 26e4V6.0",
  "26e8V5.2 2700V7.0 2701V1.1 2705V6.0 2706V1.1 270aV6.0 270cV1.1 2728V6.0 2729V1.1 274cV6.0",
  "274dV1.1 274eV6.0 274fV1.1 2753V6.0 2756V1.1 2757V5.2 2758V1.1 275fV6.0 2761V1.1 2768V3.2",
  "2776V1.1 2795V6.0 2798V1.1 27b0V6.0 27b1V1.1 27bfV6.0 27c0V4.1 27c7V5.0 27cbV6.1 27ccV5.1",
  "27cdV6.1 27ceV6.0 27d0V3.2 27ecV5.1 27f0V3.2 2800V3.0 2900V3.2 2b00V4.0 2b0eV4.1 2b14V5.0",
  "2b1bV5.1 2b20V5.0 2b24V5.1 2b4dV7.0 2b50V5.1 2b55V5.2 2b5aV7.0 2b74N 2b76V7.0 2b96N",
  "2b97V13.0 2b98V7.0 2bbaV11.0 2bbdV7.0 2bc9V12.0 2bcaV7.0 2bd2V10.0 2bd3V11.0 2becV8.0",
  "2bf0V11.0 2bffV12.0 2c00V4.1 2c2fV14.0 2c30V4.1 2c5fV14.0 2c60V5.0 2c6dV5.1 2c70V5.2",
  "2c71V5.1 2c74V5.0 2c78V5.1 2c7eV5.2 2c80V4.1 2cebV5.2 2cf2V6.1 2cf4N 2cf9V4.1 2d26N 2d27V6.1",
  "2d28N 2d2dV6.1 2d2eN 2d30V4.1 2d66V6.1 2d68N 2d6fV4.1 2d70V6.0 2d71N 2d7fV6.0 2d80V4.1 2d97N",
  "2da0V4.1 2da7N 2da8V4.1 2dafN 2db0V4.1 2db7N 2db8V4.1 2dbfN 2dc0V4.1 2dc7N 2dc8V4.1 2dcfN",
  "2dd0V4.1 2dd7N 2dd8V4.1 2ddfN 2de0V5.1 2e00V4.1 2e18V5.1 2e1cV4.1 2e1eV5.1 2e31V5.2 2e32V6.1",
  "2e3cV7.0 2e43V9.0 2e45V10.0 2e4aV11.0 2e4fV12.0 2e50V13.0 2e53V14.0 2e5eN 2e80V3.0 2e9aN",
  "2e9bV3.0 2ef4N 2f00V3.0 2fd6N 2ff0V3.0 2ffcV15.1 3000V1.1 3038V3.0 303bV3.2 303eV3.0",
  "303fV1.1 3040N 3041V1.1 3095V3.2 3097N 3099V1.1 309fV3.2 30a1V1.1 30ffV3.2 3100N 3105V1.1",
  "312dV5.1 312eV10.0 312fV11.0 3130N 3131V1.1 318fN 3190V1.1 31a0V3.0 31b8V6.0 31bbV13.0",
  "31c0V4.1 31d0V5.1 31e4V16.0 31e6N 31efV15.1 31f0V3.2 3200V1.1 321dV4.0 321fN 3220V1.1",
  "3244V5.2 3250V4.0 3251V3.2 3260V1.1 327cV4.0 327eV4.1 327fV1.1 32b1V3.2 32c0V1.1 32ccV4.0",
  "32d0V1.1 32ffV12.1 3300V1.1 3377V4.0 337bV1.1 33deV4.0 33e0V1.1 33ffV4.0 3400V3.0 4db6V13.0",
  "4dc0V4.0 4e00V1.1 9fa6V4.1 9fbcV5.1 9fc4V5.2 9fccV6.1 9fcdV8.0 9fd6V10.0 9febV11.0 9ff0V13.0",
  "9ffdV14.0 a000V3.0 a48dN a490V3.0 a4a2V3.2 a4a4V3.0 a4b4V3.2 a4b5V3.0 a4c1V3.2 a4c2V3.0",
  "a4c5V3.2 a4c6V3.0 a4c7N a4d0V5.2 a500V5.1 a62cN a640V5.1 a660V6.0 a662V5.1 a674V6.1 a67cV5.1",
  "a698V7.0 a69eV8.0 a69fV6.1 a6a0V5.2 a6f8N a700V4.1 a717V5.0 a71bV5.1 a720V5.0 a722V5.1",
  "a78dV6.0 a78fV8.0 a790V6.0 a792V6.1 a794V7.0 a7a0V6.0 a7aaV6.1 a7abV7.0 a7aeV9.0 a7afV11.0",
  "a7b0V7.0 a7b2V8.0 a7b8V11.0 a7baV12.0 a7c0V14.0 a7c2V12.0 a7c7V13.0 a7cbV16.0 a7ceN",
  "a7d0V14.0 a7d2N a7d3V14.0 a7d4N a7d5V14.0 a7daV16.0 a7ddN a7f2V14.0 a7f5V13.0 a7f7V7.0",
  "a7f8V6.1 a7faV6.0 a7fbV5.1 a800V4.1 a82cV13.0 a82dN a830V5.2 a83aN a840V5.0 a878N a880V5.1",
  "a8c5V9.0 a8c6N a8ceV5.1 a8daN a8e0V5.2 a8fcV8.0 a8feV11.0 a900V5.1 a954N a95fV5.1 a960V5.2",
  "a97dN a980V5.2 a9ceN a9cfV5.2 a9daN a9deV5.2 a9e0V7.0 a9ffN aa00V5.1 aa37N aa40V5.1 aa4eN",
  "aa50V5.1 aa5aN aa5cV5.1 aa60V5.2 aa7cV7.0 aa80V5.2 aac3N aadbV5.2 aae0V6.1 aaf7N ab01V6.0",
  "ab07N ab09V6.0 ab0fN ab11V6.0 ab17N ab20V6.0 ab27N ab28V6.0 ab2fN ab30V7.0 ab60V8.0 ab64V7.0",
  "ab66V12.0 ab68V13.0 ab6cN ab70V8.0 abc0V5.2 abeeN abf0V5.2 abfaN ac00V2.0 d7a4N d7b0V5.2",
  "d7c7N d7cbV5.2 d7fcN d800V2.0 e000V1.1 fa2eV6.1 fa30V3.2 fa6bV5.2 fa6eN fa70V4.1 fadaN",
  "fb00V1.1 fb07N fb13V1.1 fb18N fb1dV3.0 fb1eV1.1 fb37N fb38V1.1 fb3dN fb3eV1.1 fb3fN fb40V1.1",
  "fb42N fb43V1.1 fb45N fb46V1.1 fbb2V6.0 fbc2V14.0 fbc3N fbd3V1.1 fd40V14.0 fd50V1.1 fd90N",
  "fd92V1.1 fdc8N fdcfV14.0 fdd0V3.1 fdf0V1.1 fdfcV3.2 fdfdV4.0 fdfeV14.0 fe00V3.2 fe10V4.1",
  "fe1aN fe20V1.1 fe24V5.1 fe27V7.0 fe2eV8.0 fe30V1.1 fe45V3.2 fe47V4.0 fe49V1.1 fe53N fe54V1.1",
  "fe67N fe68V1.1 fe6cN fe70V1.1 fe73V3.2 fe74V1.1 fe75N fe76V1.1 fefdN feffV1.1 ff00N ff01V1.1",
  "ff5fV3.2 ff61V1.1 ffbfN ffc2V1.1 ffc8N ffcaV1.1 ffd0N ffd2V1.1 ffd8N ffdaV1.1 ffddN ffe0V1.1",
  "ffe7N ffe8V1.1 ffefN fff9V3.0 fffcV2.1 fffdV1.1 10000V4.0 1000cN 1000dV4.0 10027N 10028V4.0",
  "1003bN 1003cV4.0 1003eN 1003fV4.0 1004eN 10050V4.0 1005eN 10080V4.0 100fbN 10100V4.0 10103N",
  "10107V4.0 10134N 10137V4.0 10140V4.1 1018bV7.0 1018dV9.0 1018fN 10190V5.1 1019cV13.0 1019dN",
  "101a0V7.0 101a1N 101d0V5.1 101feN 10280V5.1 1029dN 102a0V5.1 102d1N 102e0V7.0 102fcN",
  "10300V3.1 1031fV7.0 10320V3.1 10324N 1032dV10.0 10330V3.1 1034bN 10350V7.0 1037bN 10380V4.0",
  "1039eN 1039fV4.0 103a0V4.1 103c4N 103c8V4.1 103d6N 10400V3.1 10426V4.0 10428V3.1 1044eV4.0",
  "1049eN 104a0V4.0 104aaN 104b0V9.0 104d4N 104d8V9.0 104fcN 10500V7.0 10528N 10530V7.0 10564N",
  "1056fV7.0 10570V14.0 1057bN 1057cV14.0 1058bN 1058cV14.0 10593N 10594V14.0 10596N 10597V14.0",
  "105a2N 105a3V14.0 105b2N 105b3V14.0 105baN 105bbV14.0 105bdN 105c0V16.0 105f4N 10600V7.0",
  "10737N 10740V7.0 10756N 10760V7.0 10768N 10780V14.0 10786N 10787V14.0 107b1N 107b2V14.0",
  "107bbN 10800V4.0 10806N 10808V4.0 10809N 1080aV4.0 10836N 10837V4.0 10839N 1083cV4.0 1083dN",
  "1083fV4.0 10840V5.2 10856N 10857V5.2 10860V7.0 1089fN 108a7V7.0 108b0N 108e0V8.0 108f3N",
  "108f4V8.0 108f6N 108fbV8.0 10900V5.0 1091aV5.2 1091cN 1091fV5.0 10920V5.1 1093aN 1093fV5.1",
  "10940N 10980V6.1 109b8N 109bcV8.0 109beV6.1 109c0V8.0 109d0N 109d2V8.0 10a00V4.1 10a04N",
  "10a05V4.1 10a07N 10a0cV4.1 10a14N 10a15V4.1 10a18N 10a19V4.1 10a34V11.0 10a36N 10a38V4.1",
  "10a3bN 10a3fV4.1 10a48V11.0 10a49N 10a50V4.1 10a59N 10a60V5.2 10a80V7.0 10aa0N 10ac0V7.0",
  "10ae7N 10aebV7.0 10af7N 10b00V5.2 10b36N 10b39V5.2 10b56N 10b58V5.2 10b73N 10b78V5.2",
  "10b80V7.0 10b92N 10b99V7.0 10b9dN 10ba9V7.0 10bb0N 10c00V5.2 10c49N 10c80V8.0 10cb3N",
  "10cc0V8.0 10cf3N 10cfaV8.0 10d00V11.0 10d28N 10d30V11.0 10d3aN 10d40V16.0 10d66N 10d69V16.0",
  "10d86N 10d8eV16.0 10d90N 10e60V5.2 10e7fN 10e80V13.0 10eaaN 10eabV13.0 10eaeN 10eb0V13.0",
  "10eb2N 10ec2V16.0 10ec5N 10efcV16.0 10efdV15.0 10f00V11.0 10f28N 10f30V11.0 10f5aN",
  "10f70V14.0 10f8aN 10fb0V13.0 10fccN 10fe0V12.0 10ff7N 11000V6.0 1104eN 11052V6.0 11070V14.0",
  "11076N 1107fV7.0 11080V5.2 110c2V14.0 110c3N 110cdV11.0 110ceN 110d0V6.1 110e9N 110f0V6.1",
  "110faN 11100V6.1 11135N 11136V6.1 11144V11.0 11147V13.0 11148N 11150V7.0 11177N 11180V6.1",
  "111c9V8.0 111cdV7.0 111ceV13.0 111d0V6.1 111daV7.0 111dbV8.0 111e0N 111e1V7.0 111f5N",
  "11200V7.0 11212N 11213V7.0 1123eV9.0 1123fV15.0 11242N 11280V8.0 11287N 11288V8.0 11289N",
  "1128aV8.0 1128eN 1128fV8.0 1129eN 1129fV8.0 112aaN 112b0V7.0 112ebN 112f0V7.0 112faN",
  "11300V8.0 11301V7.0 11304N 11305V7.0 1130dN 1130fV7.0 11311N 11313V7.0 11329N 1132aV7.0",
  "11331N 11332V7.0 11334N 11335V7.0 1133aN 1133bV11.0 1133cV7.0 11345N 11347V7.0 11349N",
  "1134bV7.0 1134eN 11350V8.0 11351N 11357V7.0 11358N 1135dV7.0 11364N 11366V7.0 1136dN",
  "11370V7.0 11375N 11380V16.0 1138aN 1138bV16.0 1138cN 1138eV16.0 1138fN 11390V16.0 113b6N",
  "113b7V16.0 113c1N 113c2V16.0 113c3N 113c5V16.0 113c6N 113c7V16.0 113cbN 113ccV16.0 113d6N",
  "113d7V16.0 113d9N 113e1V16.0 113e3N 11400V9.0 1145aV13.0 1145bV9.0 1145cN 1145dV9.0",
  "1145eV11.0 1145fV12.0 11460V13.0 11462N 11480V7.0 114c8N 114d0V7.0 114daN 11580V7.0 115b6N",
  "115b8V7.0 115caV8.0 115deN 11600V7.0 11645N 11650V7.0 1165aN 11660V9.0 1166dN 11680V6.1",
  "116b8V12.0 116b9V14.0 116baN 116c0V6.1 116caN 116d0V16.0 116e4N 11700V8.0 1171aV11.0 1171bN",
  "1171dV8.0 1172cN 11730V8.0 11740V14.0 11747N 11800V11.0 1183cN 118a0V7.0 118f3N 118ffV7.0",
  "11900V13.0 11907N 11909V13.0 1190aN 1190cV13.0 11914N 11915V13.0 11917N 11918V13.0 11936N",
  "11937V13.0 11939N 1193bV13.0 11947N 11950V13.0 1195aN 119a0V12.0 119a8N 119aaV12.0 119d8N",
  "119daV12.0 119e5N 11a00V10.0 11a48N 11a50V10.0 11a84V12.0 11a86V10.0 11a9dV11.0 11a9eV10.0",
  "11aa3N 11ab0V14.0 11ac0V7.0 11af9N 11b00V15.0 11b0aN 11bc0V16.0 11be2N 11bf0V16.0 11bfaN",
  "11c00V9.0 11c09N 11c0aV9.0 11c37N 11c38V9.0 11c46N 11c50V9.0 11c6dN 11c70V9.0 11c90N",
  "11c92V9.0 11ca8N 11ca9V9.0 11cb7N 11d00V10.0 11d07N 11d08V10.0 11d0aN 11d0bV10.0 11d37N",
  "11d3aV10.0 11d3bN 11d3cV10.0 11d3eN 11d3fV10.0 11d48N 11d50V10.0 11d5aN 11d60V11.0 11d66N",
  "11d67V11.0 11d69N 11d6aV11.0 11d8fN 11d90V11.0 11d92N 11d93V11.0 11d99N 11da0V11.0 11daaN",
  "11ee0V11.0 11ef9N 11f00V15.0 11f11N 11f12V15.0 11f3bN 11f3eV15.0 11f5aV16.0 11f5bN",
  "11fb0V13.0 11fb1N 11fc0V12.0 11ff2N 11fffV12.0 12000V5.0 1236fV7.0 12399V8.0 1239aN",
  "12400V5.0 12463V7.0 1246fN 12470V5.0 12474V7.0 12475N 12480V8.0 12544N 12f90V14.0 12ff3N",
  "13000V5.2 1342fV15.0 13430V12.0 13439V15.0 13456N 13460V16.0 143fbN 14400V8.0 14647N",
  "16100V16.0 1613aN 16800V6.0 16a39N 16a40V7.0 16a5fN 16a60V7.0 16a6aN 16a6eV7.0 16a70V14.0",
  "16abfN 16ac0V14.0 16acaN 16ad0V7.0 16aeeN 16af0V7.0 16af6N 16b00V7.0 16b46N 16b50V7.0 16b5aN",
  "16b5bV7.0 16b62N 16b63V7.0 16b78N 16b7dV7.0 16b90N 16d40V16.0 16d7aN 16e40V11.0 16e9bN",
  "16f00V6.1 16f45V12.0 16f4bN 16f4fV12.0 16f50V6.1 16f7fV12.0 16f88N 16f8fV6.1 16fa0N",
  "16fe0V9.0 16fe1V10.0 16fe2V12.0 16fe4V13.0 16fe5N 16ff0V13.0 16ff2N 17000V9.0 187edV11.0",
  "187f2V12.0 187f8N 18800V9.0 18af3V13.0 18cd6N 18cffV16.0 18d00V13.0 18d09N 1aff0V14.0 1aff4N",
  "1aff5V14.0 1affcN 1affdV14.0 1afffN 1b000V6.0 1b002V10.0 1b11fV14.0 1b123N 1b132V15.0 1b133N",
  "1b150V12.0 1b153N 1b155V15.0 1b156N 1b164V12.0 1b168N 1b170V10.0 1b2fcN 1bc00V7.0 1bc6bN",
  "1bc70V7.0 1bc7dN 1bc80V7.0 1bc89N 1bc90V7.0 1bc9aN 1bc9cV7.0 1bca4N 1cc00V16.0 1ccfaN",
  "1cd00V16.0 1ceb4N 1cf00V14.0 1cf2eN 1cf30V14.0 1cf47N 1cf50V14.0 1cfc4N 1d000V3.1 1d0f6N",
  "1d100V3.1 1d127N 1d129V5.1 1d12aV3.1 1d1deV8.0 1d1e9V14.0 1d1ebN 1d200V4.1 1d246N 1d2c0V15.0",
  "1d2d4N 1d2e0V11.0 1d2f4N 1d300V4.0 1d357N 1d360V5.0 1d372V11.0 1d379N 1d400V3.1 1d455N",
  "1d456V3.1 1d49dN 1d49eV3.1 1d4a0N 1d4a2V3.1 1d4a3N 1d4a5V3.1 1d4a7N 1d4a9V3.1 1d4adN",
  "1d4aeV3.1 1d4baN 1d4bbV3.1 1d4bcN 1d4bdV3.1 1d4c1V4.0 1d4c2V3.1 1d4c4N 1d4c5V3.1 1d506N",
  "1d507V3.1 1d50bN 1d50dV3.1 1d515N 1d516V3.1 1d51dN 1d51eV3.1 1d53aN 1d53bV3.1 1d53fN",
  "1d540V3.1 1d545N 1d546V3.1 1d547N 1d54aV3.1 1d551N 1d552V3.1 1d6a4V4.1 1d6a6N 1d6a8V3.1",
  "1d7caV5.0 1d7ccN 1d7ceV3.1 1d800V8.0 1da8cN 1da9bV8.0 1daa0N 1daa1V8.0 1dab0N 1df00V14.0",
  "1df1fN 1df25V15.0 1df2bN 1e000V9.0 1e007N 1e008V9.0 1e019N 1e01bV9.0 1e022N 1e023V9.0 1e025N",
  "1e026V9.0 1e02bN 1e030V15.0 1e06eN 1e08fV15.0 1e090N 1e100V12.0 1e12dN 1e130V12.0 1e13eN",
  "1e140V12.0 1e14aN 1e14eV12.0 1e150N 1e290V14.0 1e2afN 1e2c0V12.0 1e2faN 1e2ffV12.0 1e300N",
  "1e4d0V15.0 1e4faN 1e5d0V16.0 1e5fbN 1e5ffV16.0 1e600N 1e7e0V14.0 1e7e7N 1e7e8V14.0 1e7ecN",
  "1e7edV14.0 1e7efN 1e7f0V14.0 1e7ffN 1e800V7.0 1e8c5N 1e8c7V7.0 1e8d7N 1e900V9.0 1e94bV12.0",
  "1e94cN 1e950V9.0 1e95aN 1e95eV9.0 1e960N 1ec71V11.0 1ecb5N 1ed01V12.0 1ed3eN 1ee00V6.1",
  "1ee04N 1ee05V6.1 1ee20N 1ee21V6.1 1ee23N 1ee24V6.1 1ee25N 1ee27V6.1 1ee28N 1ee29V6.1 1ee33N",
  "1ee34V6.1 1ee38N 1ee39V6.1 1ee3aN 1ee3bV6.1 1ee3cN 1ee42V6.1 1ee43N 1ee47V6.1 1ee48N",
  "1ee49V6.1 1ee4aN 1ee4bV6.1 1ee4cN 1ee4dV6.1 1ee50N 1ee51V6.1 1ee53N 1ee54V6.1 1ee55N",
  "1ee57V6.1 1ee58N 1ee59V6.1 1ee5aN 1ee5bV6.1 1ee5cN 1ee5dV6.1 1ee5eN 1ee5fV6.1 1ee60N",
  "1ee61V6.1 1ee63N 1ee64V6.1 1ee65N 1ee67V6.1 1ee6bN 1ee6cV6.1 1ee73N 1ee74V6.1 1ee78N",
  "1ee79V6.1 1ee7dN 1ee7eV6.1 1ee7fN 1ee80V6.1 1ee8aN 1ee8bV6.1 1ee9cN 1eea1V6.1 1eea4N",
  "1eea5V6.1 1eeaaN 1eeabV6.1 1eebcN 1eef0V6.1 1eef2N 1f000V5.1 1f02cN 1f030V5.1 1f094N",
  "1f0a0V6.0 1f0afN 1f0b1V6.0 1f0bfV7.0 1f0c0N 1f0c1V6.0 1f0d0N 1f0d1V6.0 1f0e0V7.0 1f0f6N",
  "1f100V5.2 1f10bV7.0 1f10dV13.0 1f110V5.2 1f12fV11.0 1f130V6.0 1f131V5.2 1f132V6.0 1f13dV5.2",
  "1f13eV6.0 1f13fV5.2 1f140V6.0 1f142V5.2 1f143V6.0 1f146V5.2 1f147V6.0 1f14aV5.2 1f14fV6.0",
  "1f157V5.2 1f158V6.0 1f15fV5.2 1f160V6.0 1f16aV6.1 1f16cV12.0 1f16dV13.0 1f170V6.0 1f179V5.2",
  "1f17aV6.0 1f17bV5.2 1f17dV6.0 1f17fV5.2 1f180V6.0 1f18aV5.2 1f18eV6.0 1f190V5.2 1f191V6.0",
  "1f19bV9.0 1f1adV13.0 1f1aeN 1f1e6V6.0 1f200V5.2 1f201V6.0 1f203N 1f210V5.2 1f232V6.0",
  "1f23bV9.0 1f23cN 1f240V5.2 1f249N 1f250V6.0 1f252N 1f260V10.0 1f266N 1f300V6.0 1f321V7.0",
  "1f32dV8.0 1f330V6.0 1f336V7.0 1f337V6.0 1f37dV7.0 1f37eV8.0 1f380V6.0 1f394V7.0 1f3a0V6.0",
  "1f3c5V7.0 1f3c6V6.0 1f3cbV7.0 1f3cfV8.0 1f3d4V7.0 1f3e0V6.0 1f3f1V7.0 1f3f8V8.0 1f400V6.0",
  "1f43fV7.0 1f440V6.0 1f441V7.0 1f442V6.0 1f4f8V7.0 1f4f9V6.0 1f4fdV7.0 1f4ffV8.0 1f500V6.0",
  "1f53eV7.0 1f540V6.1 1f544V7.0 1f54bV8.0 1f550V6.0 1f568V7.0 1f57aV9.0 1f57bV7.0 1f5a4V9.0",
  "1f5a5V7.0 1f5fbV6.0 1f600V6.1 1f601V6.0 1f611V6.1 1f612V6.0 1f615V6.1 1f616V6.0 1f617V6.1",
  "1f618V6.0 1f619V6.1 1f61aV6.0 1f61bV6.1 1f61cV6.0 1f61fV6.1 1f620V6.0 1f626V6.1 1f628V6.0",
  "1f62cV6.1 1f62dV6.0 1f62eV6.1 1f630V6.0 1f634V6.1 1f635V6.0 1f641V7.0 1f643V8.0 1f645V6.0",
  "1f650V7.0 1f680V6.0 1f6c6V7.0 1f6d0V8.0 1f6d1V9.0 1f6d3V10.0 1f6d5V12.0 1f6d6V13.0 1f6d8N",
  "1f6dcV15.0 1f6ddV14.0 1f6e0V7.0 1f6edN 1f6f0V7.0 1f6f4V9.0 1f6f7V10.0 1f6f9V11.0 1f6faV12.0",
  "1f6fbV13.0 1f6fdN 1f700V6.0 1f774V15.0 1f777N 1f77bV15.0 1f780V7.0 1f7d5V11.0 1f7d9V15.0",
  "1f7daN 1f7e0V12.0 1f7ecN 1f7f0V14.0 1f7f1N 1f800V7.0 1f80cN 1f810V7.0 1f848N 1f850V7.0",
  "1f85aN 1f860V7.0 1f888N 1f890V7.0 1f8aeN 1f8b0V13.0 1f8b2V16.0 1f8bcN 1f8c0V16.0 1f8c2N",
  "1f900V10.0 1f90cV13.0 1f90dV12.0 1f910V8.0 1f919V9.0 1f91fV10.0 1f920V9.0 1f928V10.0",
  "1f930V9.0 1f931V10.0 1f933V9.0 1f93fV12.0 1f940V9.0 1f94cV10.0 1f94dV11.0 1f950V9.0",
  "1f95fV10.0 1f96cV11.0 1f971V12.0 1f972V13.0 1f973V11.0 1f977V13.0 1f979V14.0 1f97aV11.0",
  "1f97bV12.0 1f97cV11.0 1f980V8.0 1f985V9.0 1f992V10.0 1f998V11.0 1f9a3V13.0 1f9a5V12.0",
  "1f9abV13.0 1f9aeV12.0 1f9b0V11.0 1f9baV12.0 1f9c0V8.0 1f9c1V11.0 1f9c3V12.0 1f9cbV13.0",
  "1f9ccV14.0 1f9cdV12.0 1f9d0V10.0 1f9e7V11.0 1fa00V12.0 1fa54N 1fa60V11.0 1fa6eN 1fa70V12.0",
  "1fa74V13.0 1fa75V15.0 1fa78V12.0 1fa7bV14.0 1fa7dN 1fa80V12.0 1fa83V13.0 1fa87V15.0",
  "1fa89V16.0 1fa8aN 1fa8fV16.0 1fa90V12.0 1fa96V13.0 1faa9V14.0 1faadV15.0 1fab0V13.0",
  "1fab7V14.0 1fabbV15.0 1fabeV16.0 1fabfV15.0 1fac0V13.0 1fac3V14.0 1fac6V16.0 1fac7N",
  "1faceV15.0 1fad0V13.0 1fad7V14.0 1fadaV15.0 1fadcV16.0 1faddN 1fadfV16.0 1fae0V14.0",
  "1fae8V15.0 1fae9V16.0 1faeaN 1faf0V14.0 1faf7V15.0 1faf9N 1fb00V13.0 1fb93N 1fb94V13.0",
  "1fbcbV16.0 1fbf0V13.0 1fbfaN 1fffeV2.0 20000V3.1 2a6d7V13.0 2a6deV14.0 2a6e0N 2a700V5.2",
  "2b735V14.0 2b739V15.0 2b73aN 2b740V6.0 2b81eN 2b820V8.0 2cea2N 2ceb0V10.0 2ebe1N 2ebf0V15.1",
  "2ee5eN 2f800V3.1 2fa1eN 2fffeV2.0 30000V13.0 3134bN 31350V15.0 323b0N 3fffeV2.0 40000N",
  "4fffeV2.0 50000N 5fffeV2.0 60000N 6fffeV2.0 70000N 7fffeV2.0 80000N 8fffeV2.0 90000N",
  "9fffeV2.0 a0000N afffeV2.0 b0000N bfffeV2.0 c0000N cfffeV2.0 d0000N dfffeV2.0 e0000N",
  "e0001V3.1 e0002N e0020V3.1 e0080N e0100V4.0 e01f0N efffeV2.0"]

/-- The table of ages. -/
def ageTable : RunTable := .read ageLines

/-- The versions of the standard, oldest first. -/
def versions : List String := [
  "1.1", "2.0", "2.1", "3.0", "3.1", "3.2", "4.0", "4.1", "5.0", "5.1",
  "5.2", "6.0", "6.1", "6.2", "6.3", "7.0", "8.0", "9.0", "10.0", "11.0",
  "12.0", "12.1", "13.0", "14.0", "15.0", "15.1", "16.0"]

/-- The characters that a version holds, those of older versions included. -/
def ageSet (version : String) : CodeSet :=
  let held := versions.takeWhile (· != version) ++ [version]
  ageTable.codes fun label => held.contains (label.drop 1).toString

end ResourceBrowser.Text
