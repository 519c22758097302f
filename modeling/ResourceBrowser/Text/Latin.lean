import ResourceBrowser.Text.CodeSet

/-!
# Plain Latin letters

The letter of the basic alphabet behind a Latin letter with marks or of an unusual shape.
-/

namespace ResourceBrowser.Text

/-- Runs of characters with the same plain letter, which follows the colon; nothing follows it
for characters that stay as they are. -/
def plainLetterLines : List String := [
  "a1:! a2: aa:a ab: ba:o bb: bf:? c0:A c6: c7:C c8:E cc:I d0: d1:N d2:O d7: d8:O d9:U dd:Y de:",
  "df:s e0:a e6: e7:c e8:e ec:i f0: f1:n f2:o f7: f8:o f9:u fd:y fe: ff:y 100:A 101:a 102:A",
  "103:a 104:A 105:a 106:C 107:c 108:C 109:c 10a:C 10b:c 10c:C 10d:c 10e:D 10f:d 110:D 111:d",
  "112:E 113:e 114:E 115:e 116:E 117:e 118:E 119:e 11a:E 11b:e 11c:G 11d:g 11e:G 11f:g 120:G",
  "121:g 122:G 123:g 124:H 125:h 126:H 127:h 128:I 129:i 12a:I 12b:i 12c:I 12d:i 12e:I 12f:i",
  "130:I 131:i 132: 134:J 135:j 136:K 137:k 139:L 13a:l 13b:L 13c:l 13d:L 13e:l 13f: 141:L",
  "142:l 143:N 144:n 145:N 146:n 147:N 148:n 14a: 14c:O 14d:o 14e:O 14f:o 150:O 151:o 152:",
  "154:R 155:r 156:R 157:r 158:R 159:r 15a:S 15b:s 15c:S 15d:s 15e:S 15f:s 160:S 161:s 162:T",
  "163:t 164:T 165:t 166:T 167:t 168:U 169:u 16a:U 16b:u 16c:U 16d:u 16e:U 16f:u 170:U 171:u",
  "172:U 173:u 174:W 175:w 176:Y 177:y 178:Y 179:Z 17a:z 17b:Z 17c:z 17d:Z 17e:z 17f:s 180:b",
  "181:B 183:b 184: 186:O 187:C 188:c 189:D 18c:d 18d: 18e:E 18f: 190:E 191:F 192:f 193:G 194:",
  "197:I 198:K 199:k 19a:l 19b: 19c:M 19d:N 19e:n 19f:O 1a1:o 1a2: 1a4:P 1a5:p 1a6: 1ab:t 1ac:T",
  "1ad:t 1ae:T 1af:U 1b0:u 1b1: 1b2:V 1b3:Y 1b4:y 1b5:Z 1b6:z 1b7: 1cd:A 1ce:a 1cf:I 1d0:i",
  "1d1:O 1d2:o 1d3:U 1d4:u 1d5:U 1d6:u 1d7:U 1d8:u 1d9:U 1da:u 1db:U 1dc:u 1dd:e 1de:A 1df:a",
  "1e0:A 1e1:a 1e2: 1e4:G 1e5:g 1e6:G 1e7:g 1e8:K 1e9:k 1ea:O 1eb:o 1ec:O 1ed:o 1ee: 1f0:j 1f1:",
  "1f4:G 1f5:g 1f6: 1f8:N 1f9:n 1fa:A 1fb:a 1fc: 200:A 201:a 202:A 203:a 204:E 205:e 206:E",
  "207:e 208:I 209:i 20a:I 20b:i 20c:O 20d:o 20e:O 20f:o 210:R 211:r 212:R 213:r 214:U 215:u",
  "216:U 217:u 218:S 219:s 21a:T 21b:t 21c: 21e:H 21f:h 220: 221:d 222: 224:Z 225:z 226:A 227:a",
  "228:E 229:e 22a:O 22b:o 22c:O 22d:o 22e:O 22f:o 230:O 231:o 232:Y 233:y 234:l 235:n 236:t",
  "237:j 238: 23a:A 23b:C 23c:c 23d:L 23e:T 23f:s 240:z 241: 243:B 244:U 245:V 246:E 247:e",
  "248:J 249:j 24a:Q 24b:q 24c:R 24d:r 24e:Y 24f:y 250:a 252: 253:b 254:o 255:c 256:d 258:e",
  "259: 25b:e 25f:j 260:g 262:G 263: 265:h 267: 268:i 269: 26a:I 26b:l 26e: 26f:m 272:n 274:N",
  "275:o 276: 279:r 280:R 282:s 283: 287:t 289:u 28a: 28b:v 28d:w 28e:y 28f:Y 290:z 292: 297:C",
  "298: 299:B 29a:e 29b:G 29c:H 29d:j 29e:k 29f:L 2a0:q 2a1: 1e00:A 1e01:a 1e02:B 1e03:b 1e04:B",
  "1e05:b 1e06:B 1e07:b 1e08:C 1e09:c 1e0a:D 1e0b:d 1e0c:D 1e0d:d 1e0e:D 1e0f:d 1e10:D 1e11:d",
  "1e12:D 1e13:d 1e14:E 1e15:e 1e16:E 1e17:e 1e18:E 1e19:e 1e1a:E 1e1b:e 1e1c:E 1e1d:e 1e1e:F",
  "1e1f:f 1e20:G 1e21:g 1e22:H 1e23:h 1e24:H 1e25:h 1e26:H 1e27:h 1e28:H 1e29:h 1e2a:H 1e2b:h",
  "1e2c:I 1e2d:i 1e2e:I 1e2f:i 1e30:K 1e31:k 1e32:K 1e33:k 1e34:K 1e35:k 1e36:L 1e37:l 1e38:L",
  "1e39:l 1e3a:L 1e3b:l 1e3c:L 1e3d:l 1e3e:M 1e3f:m 1e40:M 1e41:m 1e42:M 1e43:m 1e44:N 1e45:n",
  "1e46:N 1e47:n 1e48:N 1e49:n 1e4a:N 1e4b:n 1e4c:O 1e4d:o 1e4e:O 1e4f:o 1e50:O 1e51:o 1e52:O",
  "1e53:o 1e54:P 1e55:p 1e56:P 1e57:p 1e58:R 1e59:r 1e5a:R 1e5b:r 1e5c:R 1e5d:r 1e5e:R 1e5f:r",
  "1e60:S 1e61:s 1e62:S 1e63:s 1e64:S 1e65:s 1e66:S 1e67:s 1e68:S 1e69:s 1e6a:T 1e6b:t 1e6c:T",
  "1e6d:t 1e6e:T 1e6f:t 1e70:T 1e71:t 1e72:U 1e73:u 1e74:U 1e75:u 1e76:U 1e77:u 1e78:U 1e79:u",
  "1e7a:U 1e7b:u 1e7c:V 1e7d:v 1e7e:V 1e7f:v 1e80:W 1e81:w 1e82:W 1e83:w 1e84:W 1e85:w 1e86:W",
  "1e87:w 1e88:W 1e89:w 1e8a:X 1e8b:x 1e8c:X 1e8d:x 1e8e:Y 1e8f:y 1e90:Z 1e91:z 1e92:Z 1e93:z",
  "1e94:Z 1e95:z 1e96:h 1e97:t 1e98:w 1e99:y 1e9a:a 1e9b: 1e9e:S 1e9f: 1ea0:A 1ea1:a 1ea2:A",
  "1ea3:a 1ea4:A 1ea5:a 1ea6:A 1ea7:a 1ea8:A 1ea9:a 1eaa:A 1eab:a 1eac:A 1ead:a 1eae:A 1eaf:a",
  "1eb0:A 1eb1:a 1eb2:A 1eb3:a 1eb4:A 1eb5:a 1eb6:A 1eb7:a 1eb8:E 1eb9:e 1eba:E 1ebb:e 1ebc:E",
  "1ebd:e 1ebe:E 1ebf:e 1ec0:E 1ec1:e 1ec2:E 1ec3:e 1ec4:E 1ec5:e 1ec6:E 1ec7:e 1ec8:I 1ec9:i",
  "1eca:I 1ecb:i 1ecc:O 1ecd:o 1ece:O 1ecf:o 1ed0:O 1ed1:o 1ed2:O 1ed3:o 1ed4:O 1ed5:o 1ed6:O",
  "1ed7:o 1ed8:O 1ed9:o 1eda:O 1edb:o 1edc:O 1edd:o 1ede:O 1edf:o 1ee0:O 1ee1:o 1ee2:O 1ee3:o",
  "1ee4:U 1ee5:u 1ee6:U 1ee7:u 1ee8:U 1ee9:u 1eea:U 1eeb:u 1eec:U 1eed:u 1eee:U 1eef:u 1ef0:U",
  "1ef1:u 1ef2:Y 1ef3:y 1ef4:Y 1ef5:y 1ef6:Y 1ef7:y 1ef8:Y 1ef9:y 1efa: 2071:i 2072: 207f:n",
  "2080: 2090:a 2091:e 2092:o 2093:x 2094:e 2095:h 2096:k 2097:l 2098:m 2099:n 209a:p 209b:s",
  "209c:t 209d:"]

/-- The table of plain letters. -/
def plainLetters : RunTable := .read ("0:" :: plainLetterLines)

/-- The plain letter of a character; other characters stay. -/
def plainLetter (c : Char) : Char :=
  if c.toNat < 0xA0 then c
  else match (plainLetters.label c.toNat).toList with
    | _ :: letter :: _ => letter
    | _ => c

end ResourceBrowser.Text
