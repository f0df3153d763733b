import OperationLint.Text.CharTable
import OperationLint.Text.Run

/-!
# Forms of characters

Characters that stand for others: raised and lowered characters, characters in circles and squares,
ligatures, kana of the second kind, digits of other scripts. They have the places of what they stand
for and differ on the third level, where each kind of form has a weight of its own. A ligature of
letters that are often written apart has a joint behind its first letter, which counts on the second
level. So has a quotation mark that curves or leans: it counts as the straight one, with a joint.
-/

namespace OperationLint.Collation

/-- A kind of form: its weights for small letters and for capitals, the weight of its joint, and the
forms, each with what it stands for. -/
structure FormKind where
  small : Nat
  capital : Nat
  joint : Option Nat
  lines : List String

/-- The kinds of forms. -/
def formKinds : List FormKind :=
  [ ⟨0x1b, 0x1b, none, ["a0=20 f0c=f0b 2007=20 2011=2010 202f=20"]⟩,
    ⟨0x14, 0x14, none,
      [ "aa=61 b2-b3=32 b9=31 ba=6f 2b0=68 2b1=266 2b2=6a 2b3=72 2b4=279 2b5=27b 2b6=281 2b7=77",
        "2b8=79 2e0=263 2e1=6c 2e2=73 2e3=78 2e4=295 10fc=10dc 1d43=61 1d44-1d45=250 1d46=1d02",
        "1d47=62 1d48-1d49=64 1d4a=259 1d4b=25b 1d4c=1d08 1d4d=67 1d4e=1d09 1d4f=6b 1d50=6d",
        "1d51=14b 1d52=6f 1d53=254 1d54-1d55=1d16 1d56=70 1d57-1d58=74 1d59=1d1d 1d5a=26f",
        "1d5b=76 1d5c=1d25 1d5d-1d5f=3b2 1d60-1d61=3c6 1d78=43d 1d9b=252 1d9c=63 1d9d=255",
        "1d9f=25c 1da0=66 1da1=25f 1da2=261 1da3=265 1da4-1da6=268 1da7=1d7b 1da8=29d 1da9=26d",
        "1daa=1d85 1dab=29f 1dac=271 1dad=270 1dae-1db1=272 1db2=278 1db3-1db4=282 1db5=1ab",
        "1db6-1db7=289 1db8=1d1c 1db9-1dba=28b 1dbb=7a 1dbc-1dbe=290 1dbf=3b8 2070=30 2071=69",
        "2074-2079=34 207a=2b 207b=2212 207c=3d 207d-207e=28 207f=6e 2120=73.6d 2122=74.6d",
        "3192=4e00 3193=4e8c 3194=4e09 3195=56db 3196=4e0a 3197=4e2d 3198=4e0b 3199=7532",
        "319a=4e59 319b=4e19 319c=4e01 319d=5929 319e=5730 319f=4eba a69c=44a a69d=44c a770=a76f",
        "a7f2=43 a7f3=46 a7f4=51 a7f8=68.335 ab5c=a727 ab5d=ab37 ab5e=26b ab5f=ab52 ab69=28d",
        "10781-10782=2d0 10783=e6 10784=299 10785=253 10787=2a3 10788=ab66 10789=2a5 1078a=2a4",
        "1078b-1078c=256 1078d=1d91 1078e=258 1078f=25e 10790=2a9 10791=264 10792=262 10793=260",
        "10794=29b 10795=127 10796=29c 10797=267 10798=284 10799-1079a=2aa 1079b=26c 1079c=1df04",
        "1079d=a78e 1079e=26e 1079f=1df05 107a0=28e 107a1=1df06 107a2=f8 107a3-107a4=276",
        "107a5=71 107a6=27a 107a7=1df08 107a8-107a9=27d 107aa=280 107ab=2a8 107ac=2a6 107ad=ab67",
        "107ae=2a7 107af=288 107b0=2c71 107b2=28f 107b3-107b4=2a1 107b5=298 107b6-107b8=1c0",
        "107b9=1df0a 107ba=1df1e 1e030-1e038=430 1e039-1e03b=43a 1e03c-1e046=43e 1e047=44b",
        "1e048-1e049=44d 1e04a=a689 1e04b=4d9 1e04c=456 1e04d=458 1e04e=4e9 1e04f=4af 1e050=4cf",
        "1e06b=4ab 1e06c=a651 1e06d=4b1 1f16a=6d.63 1f16b=6d.64 1f16c=6d.72"]⟩,
    ⟨0x4, 0xa, none,
      [ "b5=3bc 132=49.4a 133=69.6a 149=2bc.6e 18d=7a.77 1be=74.73 1c4=44.5a.30c 1c5=44.7a.30c",
        "1c6=64.7a.30c 1c7=4c.4a 1c8=4c.6a 1c9=6c.6a 1ca=4e.4a 1cb=4e.6a 1cc=6e.6a 1f1=44.5a",
        "1f2=44.7a 1f3=64.7a 238=64.62 239=71.70 2a3=64.7a 2a4=64.292 2a5=64.291 2a6=74.73",
        "2a7=74.283 2a8=74.255 2a9=66.14b 2aa=6c.73 2ab=6c.7a 363=61 364=65 365=69 366=6f 367=75",
        "368-369=63 36a=68 36b=6d 36c=72 36d=74 36e=76 36f=78 37a=3b9 3cf=39a.3b1.3b9 3d0=3b2",
        "3d1=3b8 3d2=3a5 3d5=3c6 3d6=3c0 3d7=3ba.3b1.3b9 3f0=3ba 3f1=3c1 3f2=3c3 3f4=398 3f5=3b5",
        "3f9=3a3 587=565.582 5ef=5d9.5d4.5d5.5d4 5f0=5d5.5d5 5f1=5d5.5d9 5f2=5d9.5d9 674=621",
        "675=627.621 676=648.621 677=6c7.621 678=64a.621 6e5=648 6e6=64a 8ad=627 9ce=9a4.9cd",
        "d3b=d4d d3c=d4d d4e=d30.d4d d54=d2e.d4d d55=d2f.d4d d56=d34.d4d d7a=d23.d4d d7b=d28.d4d",
        "d7c=d30.d4d d7d=d32.d4d d7e=d33.d4d d7f=d15.d4d edc=eab.e99 edd=eab.ea1 f00=f68.f7c.902",
        "f2a-f32=31 f33=30 102b=102c 103f=101e.1039.101e 1680=20 16ee=16c5.16da 16f0=16a6.16a6",
        "191d=1908.1929 191e=190b.192a 19de=199c.19b6 19df=199c.19b6.19c1 1a54=1a46.1a60.1a46",
        "1a58=1a26 1a59=1a26 1a5a=1a3b 1a5b=1a3b 1a64=1a63 1abf=77 1ac0=28d 1bba=1b83 1bc1=1bc0",
        "1bc3=1bc2 1bc4=1bc2 1bc6=1bc5 1bc8=1bc7 1bca=1bc9 1bcc=1bcb 1bcd=1bcb 1bcf=1bce",
        "1bd3=1bd2 1bd5=1bd4 1bd7=1bd6 1bd9=1bd8 1bda=1bd8 1bdc=1bdb 1bdf=1bde 1be8=1be7",
        "1beb=1bea 1bed=1bec 1bef=1bee 1c80=432 1c81=434 1c82=43e 1c83-1c84=441 1c85=442",
        "1c86=44a 1c87=463 1c88=a64b 1cea=1ce9 1ceb=1ce9 1cec=1ce9 1cee=1ce9 1cef=1ce9 1cf0=1ce9",
        "1cf1=1ce9 1cfa=1ce9 1dca=72 1dd2=a76f 1dd5=61.6f 1dd6=61.76 1dd7=63.327 1dda=67",
        "1ddb=262 1ddc-1ddd=6b 1dde=29f 1ddf=1d0d 1de0=6e 1de1=274 1de2=280 1de3=a75b 1de4=73",
        "1de6=7a 1de7=251 1de8=62 1de9=a7b5 1dea=259 1deb=66 1dec=ab38 1ded=6f.316 1dee=70",
        "1def=283 1df0=75.316 1df1=77 1df2=61.308 1df3=6f.308 1df4=75.308 1e9a=61.2be 1efa=4c.4c",
        "1efb=6c.6c 2002=20 2003=20 2004=20 2005=20 2006=20 2008=20 2009=20 200a=20 2024=2e",
        "2025=2e.2e 2026=2e.2e.2e 2033=2032.2032 2034=2032.2032.2032 2036=2035.2035",
        "2037=2035.2035.2035 203c=21.21 2047=3f.3f 2048=3f.21 2049=21.3f",
        "2057=2032.2032.2032.2032 205f=20 20a7=50.74.73 20a8=52.73 2100=61.2f.63 2101=61.2f.73",
        "2103=b0.43 2105=63.2f.6f 2106=63.2f.75 2107=190 2109=b0.46 2116=4e.6f 2121=54.45.4c",
        "2135-2138=5d0 213b=46.41.58 214d=41.2f.53 2160=49 2161=49.49 2162=49.49.49 2163=49.56",
        "2164=56 2165=56.49 2166=56.49.49 2167=56.49.49.49 2168=49.58 2169=58 216a=58.49",
        "216b=58.49.49 216c=4c 216d-216e=43 216f=4d 2170=69 2171=69.69 2172=69.69.69 2173=69.76",
        "2174=76 2175=76.69 2176=76.69.69 2177=76.69.69.69 2178=69.78 2179=78 217a=78.69",
        "217b=78.69.69 217c=6c 217d-217e=63 217f=6d 222c=222b.222b 222d=222b.222b.222b",
        "222f=222e.222e 2230=222e.222e.222e 2474=28.31.29 2475=28.32.29 2476=28.33.29",
        "2477=28.34.29 2478=28.35.29 2479=28.36.29 247a=28.37.29 247b=28.38.29 247c=28.39.29",
        "247d=28.31.30.29 247e=28.31.31.29 247f=28.31.32.29 2480=28.31.33.29 2481=28.31.34.29",
        "2482=28.31.35.29 2483=28.31.36.29 2484=28.31.37.29 2485=28.31.38.29 2486=28.31.39.29",
        "2487=28.32.30.29 2488=31.2e 2489=32.2e 248a=33.2e 248b=34.2e 248c=35.2e 248d=36.2e",
        "248e=37.2e 248f=38.2e 2490=39.2e 2491=31.30.2e 2492=31.31.2e 2493=31.32.2e",
        "2494=31.33.2e 2495=31.34.2e 2496=31.35.2e 2497=31.36.2e 2498=31.37.2e 2499=31.38.2e",
        "249a=31.39.2e 249b=32.30.2e 249c=28.61.29 249d=28.62.29 249e=28.63.29 249f=28.64.29",
        "24a0=28.65.29 24a1=28.66.29 24a2=28.67.29 24a3=28.68.29 24a4=28.69.29 24a5=28.6a.29",
        "24a6=28.6b.29 24a7=28.6c.29 24a8=28.6d.29 24a9=28.6e.29 24aa=28.6f.29 24ab=28.70.29",
        "24ac=28.71.29 24ad=28.72.29 24ae=28.73.29 24af=28.74.29 24b0=28.75.29 24b1=28.76.29",
        "24b2=28.77.29 24b3=28.78.29 24b4=28.79.29 24b5=28.7a.29 2a0c=222b.222b.222b.222b",
        "2a74=3a.3a.3d 2a75=3d.3d 2a76=3d.3d.3d 2ce4=2c95.2c81.2c93 2de0-2de3=431 2de4-2de5=436",
        "2de6-2dee=43a 2def-2df3=445 2df4=473 2df5=441.442 2df6=430 2df7=435 2df8=a649 2df9=a64b",
        "2dfa=463 2dfb=44e 2dfc=a657 2dfd=467 2dfe=46b 2dff=46d 2e82=4e5b 2e83=4e5a 2e85=4ebb",
        "2e89=5202 2e8f=5c23 2e90=5c22 2e92=5df3 2e93=5e7a 2e94=5f51 2e96=5fc4 2e98=624c",
        "2e99=6535 2e9b=65e1 2e9f=6bcd 2ea0=6c11 2ea1=6c35 2ea2=6c3a 2ea3=706c 2ea4=722b",
        "2ea6=4e2c 2ea8=72ad 2ead=793b 2eaf=7cf9 2eb0=7e9f 2eb1=7f53 2eb2=7f52 2eb8=7f8b",
        "2eb9=8002 2eba=8080 2ebe=8279 2ec1=864e 2ec2=8864 2ec3=8980 2ec4=897f 2ec5=89c1",
        "2ec6=89d2 2ec8=8ba0 2ec9=8d1d 2ecb=8f66 2ecc=8fb6 2ed0=9485 2ed1-2ed2=9577 2ed3=957f",
        "2ed4=95e8 2ed6=961d 2ed8=9752 2ed9=97e6 2eda=9875 2edb=98ce 2edc-2edd=98de 2edf=98e0",
        "2ee0=9963 2ee2=9a6c 2ee5=9c7c 2ee6=9e1f 2ee8=9ea6 2ee9=9ec4 2eea=9efe 2eec=9f50",
        "2eee=9f7f 2ef0=9f99 2ef3=9f9f 2f00=4e00 2f01=4e28 2f02=4e36 2f03=4e3f 2f04=4e59",
        "2f05=4e85 2f06=4e8c 2f07=4ea0 2f08=4eba 2f09=513f 2f0a=5165 2f0b=516b 2f0c=5182",
        "2f0d=5196 2f0e=51ab 2f0f=51e0 2f10=51f5 2f11=5200 2f12=529b 2f13=52f9 2f14=5315",
        "2f15=531a 2f16=5338 2f17=5341 2f18=535c 2f19=5369 2f1a=5382 2f1b=53b6 2f1c=53c8",
        "2f1d=53e3 2f1e=56d7 2f1f=571f 2f20=58eb 2f21=5902 2f22=590a 2f23=5915 2f24=5927",
        "2f25=5973 2f26=5b50 2f27=5b80 2f28=5bf8 2f29=5c0f 2f2a=5c22 2f2b=5c38 2f2c=5c6e",
        "2f2d=5c71 2f2e=5ddb 2f2f=5de5 2f30=5df1 2f31=5dfe 2f32=5e72 2f33=5e7a 2f34=5e7f",
        "2f35=5ef4 2f36=5efe 2f37=5f0b 2f38=5f13 2f39=5f50 2f3a=5f61 2f3b=5f73 2f3c=5fc3",
        "2f3d=6208 2f3e=6236 2f3f=624b 2f40=652f 2f41=6534 2f42=6587 2f43=6597 2f44=65a4",
        "2f45=65b9 2f46=65e0 2f47=65e5 2f48=66f0 2f49=6708 2f4a=6728 2f4b=6b20 2f4c=6b62",
        "2f4d=6b79 2f4e=6bb3 2f4f=6bcb 2f50=6bd4 2f51=6bdb 2f52=6c0f 2f53=6c14 2f54=6c34",
        "2f55=706b 2f56=722a 2f57=7236 2f58=723b 2f59=723f 2f5a=7247 2f5b=7259 2f5c=725b",
        "2f5d=72ac 2f5e=7384 2f5f=7389 2f60=74dc 2f61=74e6 2f62=7518 2f63=751f 2f64=7528",
        "2f65=7530 2f66=758b 2f67=7592 2f68=7676 2f69=767d 2f6a=76ae 2f6b=76bf 2f6c=76ee",
        "2f6d=77db 2f6e=77e2 2f6f=77f3 2f70=793a 2f71=79b8 2f72=79be 2f73=7a74 2f74=7acb",
        "2f75=7af9 2f76=7c73 2f77=7cf8 2f78=7f36 2f79=7f51 2f7a=7f8a 2f7b=7fbd 2f7c=8001",
        "2f7d=800c 2f7e=8012 2f7f=8033 2f80=807f 2f81=8089 2f82=81e3 2f83=81ea 2f84=81f3",
        "2f85=81fc 2f86=820c 2f87=821b 2f88=821f 2f89=826e 2f8a=8272 2f8b=8278 2f8c=864d",
        "2f8d=866b 2f8e=8840 2f8f=884c 2f90=8863 2f91=897e 2f92=898b 2f93=89d2 2f94=8a00",
        "2f95=8c37 2f96=8c46 2f97=8c55 2f98=8c78 2f99=8c9d 2f9a=8d64 2f9b=8d70 2f9c=8db3",
        "2f9d=8eab 2f9e=8eca 2f9f=8f9b 2fa0=8fb0 2fa1=8fb5 2fa2=9091 2fa3=9149 2fa4=91c6",
        "2fa5=91cc 2fa6=91d1 2fa7=9577 2fa8=9580 2fa9=961c 2faa=96b6 2fab=96b9 2fac=96e8",
        "2fad=9751 2fae=975e 2faf=9762 2fb0=9769 2fb1=97cb 2fb2=97ed 2fb3=97f3 2fb4=9801",
        "2fb5=98a8 2fb6=98db 2fb7=98df 2fb8=9996 2fb9=9999 2fba=99ac 2fbb=9aa8 2fbc=9ad8",
        "2fbd=9adf 2fbe=9b25 2fbf=9b2f 2fc0=9b32 2fc1=9b3c 2fc2=9b5a 2fc3=9ce5 2fc4=9e75",
        "2fc5=9e7f 2fc6=9ea5 2fc7=9ebb 2fc8=9ec3 2fc9=9ecd 2fca=9ed1 2fcb=9ef9 2fcc=9efd",
        "2fcd=9f0e 2fce=9f13 2fcf=9f20 2fd0=9f3b 2fd1=9f4a 2fd2=9f52 2fd3=9f8d 2fd4=9f9c",
        "2fd5=9fa0 3006=3057.3081 3036=3012 3038=5341 3039-303a=5344 303c=307e.3059 312e=311c",
        "3131-3132=1100 3133=11aa 3134=1102 3135-3136=11ac 3137-3139=1103 313a-313f=11b0",
        "3140=111a 3141-3143=1106 3144=1121 3145-314e=1109 314f-3163=1161 3164=1160",
        "3165-3166=1114 3167-3168=11c7 3169=11cc 316a=11ce 316b=11d3 316c=11d7 316d=11d9",
        "316e=111c 316f=11dd 3170=11df 3171-3172=111d 3173=1120 3174-3175=1122 3176=1127",
        "3177=1129 3178-317c=112b 317d=1132 317e=1136 317f=1140 3180=1147 3181=114c",
        "3182-3183=11f1 3184-3186=1157 3187-3188=1184 3189=1188 318a-318b=1191 318c=1194",
        "318d=119e 318e=11a1 3200=28.1100.29 3201=28.1102.29 3202=28.1103.29 3203=28.1105.29",
        "3204=28.1106.29 3205=28.1107.29 3206=28.1109.29 3207=28.110b.29 3208=28.110c.29",
        "3209=28.110e.29 320a=28.110f.29 320b=28.1110.29 320c=28.1111.29 320d=28.1112.29",
        "320e=28.1100.1161.29 320f=28.1102.1161.29 3210=28.1103.1161.29 3211=28.1105.1161.29",
        "3212=28.1106.1161.29 3213=28.1107.1161.29 3214=28.1109.1161.29 3215=28.110b.1161.29",
        "3216=28.110c.1161.29 3217=28.110e.1161.29 3218=28.110f.1161.29 3219=28.1110.1161.29",
        "321a=28.1111.1161.29 321b=28.1112.1161.29 321c=28.110c.116e.29",
        "321d=28.110b.1169.110c.1165.11ab.29 321e=28.110b.1169.1112.116e.29 3220=28.4e00.29",
        "3221=28.4e8c.29 3222=28.4e09.29 3223=28.56db.29 3224=28.4e94.29 3225=28.516d.29",
        "3226=28.4e03.29 3227=28.516b.29 3228=28.4e5d.29 3229=28.5341.29 322a=28.6708.29",
        "322b=28.706b.29 322c=28.6c34.29 322d=28.6728.29 322e=28.91d1.29 322f=28.571f.29",
        "3230=28.65e5.29 3231=28.682a.29 3232=28.6709.29 3233=28.793e.29 3234=28.540d.29",
        "3235=28.7279.29 3236=28.8ca1.29 3237=28.795d.29 3238=28.52b4.29 3239=28.4ee3.29",
        "323a=28.547c.29 323b=28.5b66.29 323c=28.76e3.29 323d=28.4f01.29 323e=28.8cc7.29",
        "323f=28.5354.29 3240=28.796d.29 3241=28.4f11.29 3242=28.81ea.29 3243=28.81f3.29",
        "32c0=31.6708 32c1=32.6708 32c2=33.6708 32c3=34.6708 32c4=35.6708 32c5=36.6708",
        "32c6=37.6708 32c7=38.6708 32c8=39.6708 32c9=31.30.6708 32ca=31.31.6708 32cb=31.32.6708",
        "3358=30.70b9 3359=31.70b9 335a=32.70b9 335b=33.70b9 335c=34.70b9 335d=35.70b9",
        "335e=36.70b9 335f=37.70b9 3360=38.70b9 3361=39.70b9 3362=31.30.70b9 3363=31.31.70b9",
        "3364=31.32.70b9 3365=31.33.70b9 3366=31.34.70b9 3367=31.35.70b9 3368=31.36.70b9",
        "3369=31.37.70b9 336a=31.38.70b9 336b=31.39.70b9 336c=32.30.70b9 336d=32.31.70b9",
        "336e=32.32.70b9 336f=32.33.70b9 3370=32.34.70b9 33e0=31.65e5 33e1=32.65e5 33e2=33.65e5",
        "33e3=34.65e5 33e4=35.65e5 33e5=36.65e5 33e6=37.65e5 33e7=38.65e5 33e8=39.65e5",
        "33e9=31.30.65e5 33ea=31.31.65e5 33eb=31.32.65e5 33ec=31.33.65e5 33ed=31.34.65e5",
        "33ee=31.35.65e5 33ef=31.36.65e5 33f0=31.37.65e5 33f1=31.38.65e5 33f2=31.39.65e5",
        "33f3=32.30.65e5 33f4=32.31.65e5 33f5=32.32.65e5 33f6=32.33.65e5 33f7=32.34.65e5",
        "33f8=32.35.65e5 33f9=32.36.65e5 33fa=32.37.65e5 33fb=32.38.65e5 33fc=32.39.65e5",
        "33fd=33.30.65e5 33fe=33.31.65e5 a610=a558 a611=a56a a612=a587 a613=a50c.a60b",
        "a614=a51e.a60b a615=a533.a60b a616=a547.a60c a617=a552.a60b a618=a558.a60c",
        "a619=a55a.a60c a61a=a560.a60b a61b=a585.a60b a61c=a5b4.a60b a61d=a5cb.a60b",
        "a61e=a5d1.a60c a61f=a5d8.a60b a62a=a56e a62b=a5d1 a668=41e a669=43e a66a=41e a66b=43e",
        "a66c=41e a66d=43e a66e=43e a674=454 a675=438 a676=456.308 a677=443 a678-a67a=44a",
        "a67b=461 a698=41e a699=43e a69a=41e a69b=43e a69e=444 a69f=465 a728=54.7a a729=74.7a",
        "a732=41.41 a733=61.61 a734=41.4f a735=61.6f a736=41.55 a737=61.75 a738=41.56 a739=61.76",
        "a73c=41.59 a73d=61.79 a74e=4f.4f a74f=6f.6f a760=56.59 a761=76.79 a79a=41.308",
        "a79b=61.308 a79c=4f.308 a79d=6f.308 a79e=55.308 a79f=75.308 a7a0=47.336 a7a1=67.336",
        "a7a2=4b.336 a7a3=6b.336 a7a4=4e.336 a7a5=6e.336 a7a6=52.336 a7a7=72.336 a7a8=53.336",
        "a7a9=73.336 a8f3=a8f2 a8f4=a8f2 a8f5=a8f2 a8f6=a8f2 a8f7=a8f2 a9ac=a9ab a9b5=a9b4",
        "ab66=64.290 ab67=74.282 fb00=66.66 fb01=66.69 fb02=66.6c fb03=66.66.69 fb04=66.66.6c",
        "fb06=73.74 fb13=574.576 fb14=574.565 fb15=574.56b fb16=57e.576 fb17=574.56d",
        "fb4f=5d0.5dc fe49=203e fe4a=203e fe4b=203e fe4c=203e fe4d=5f fe4e=5f fe4f=5f",
        "10376=10350 10377=10353 10378=10357 10379=1035d 1037a=10361 10f27=10f12.10f18",
        "10ff6=10fe6.10fe9 16f06=16f04 16f13=16f10 16f25=16f23 16f3f=16f3d 1e000-1e006=2c30",
        "1e008-1e018=2c38 1e01b-1e021=2c4b 1e023-1e024=2c53 1e026-1e02a=2c56 1f100=30.2e",
        "1f101=30.2c 1f102=31.2c 1f103=32.2c 1f104=33.2c 1f105=34.2c 1f106=35.2c 1f107=36.2c",
        "1f108=37.2c 1f109=38.2c 1f10a=39.2c 1f110=28.41.29 1f111=28.42.29 1f112=28.43.29",
        "1f113=28.44.29 1f114=28.45.29 1f115=28.46.29 1f116=28.47.29 1f117=28.48.29",
        "1f118=28.49.29 1f119=28.4a.29 1f11a=28.4b.29 1f11b=28.4c.29 1f11c=28.4d.29",
        "1f11d=28.4e.29 1f11e=28.4f.29 1f11f=28.50.29 1f120=28.51.29 1f121=28.52.29",
        "1f122=28.53.29 1f123=28.54.29 1f124=28.55.29 1f125=28.56.29 1f126=28.57.29",
        "1f127=28.58.29 1f128=28.59.29 1f129=28.5a.29 1f12a=3014.53.3015 1f240=3014.672c.3015",
        "1f241=3014.4e09.3015 1f242=3014.4e8c.3015 1f243=3014.5b89.3015 1f244=3014.70b9.3015",
        "1f245=3014.6253.3015 1f246=3014.76d7.3015 1f247=3014.52dd.3015 1f248=3014.6557.3015"]⟩,
    ⟨0x1e, 0x1e, none,
      [ "bc=31.2044.34 bd=31.2044.32 be=33.2044.34 2150=31.2044.37 2151=31.2044.39",
        "2152=31.2044.31.30 2153=31.2044.33 2154=32.2044.33 2155=31.2044.35 2156=32.2044.35",
        "2157=33.2044.35 2158=34.2044.35 2159=31.2044.36 215a=35.2044.36 215b=31.2044.38",
        "215c=33.2044.38 215d=35.2044.38 215e=37.2044.38 215f=31.2044 2189=30.2044.33"]⟩,
    ⟨0x4, 0xa, some 0x118,
      [ "c6=41.45 d0=44 df=73.73 e6=61.65 f0=64 152=4f.45 153=6f.65 7e8-7e9=7d6 7ea=7d9",
        "16a1=16a0 16a4=16a2 16a7=16a6 16a9=16a8 16b3=16b2 16bb=16ba 16bf=16be 16c2=16c1",
        "16c4=16c3 16c6=16c5 16cb=16ca 16d0=16cf 16d3=16d2 16d5=16c8 16d8=16d7 16db=16da",
        "16dd=16dc 16e7=16e6 16e9=16b9 1d7a=74.68 1dd3=61 1dd4=61.65 1dd9=64 1e9e=53.53",
        "2e80=4e36 2e81=5382 2e84=4e59 2e86=5182 2e87=51e0 2e88=5200 2e8a=535c 2e8b=5369",
        "2e8c=5c0f 2e8e=5c22 2e91=5c23 2e95=5f50 2e97=5fc3 2e9c=65e5 2e9d=6708 2e9e=6b7a",
        "2ea5=722b 2ea7=725b 2ea9=738b 2eaa=758b 2eab=76ee 2eac=793a 2eae=7af9 2eb3=7f53",
        "2eb5=7f52 2eb6=7f8a 2ebb=807f 2ebc=8089 2ebd=81fc 2ebf=8279 2ec7=89d2 2eca=8db3",
        "2ecd=8fb6 2ecf=9091 2ed5=961c 2ed7=96e8 2ede=98e0 2ee1=9996 2ee3=9aa8 2ee4=9b3c",
        "2ee7=9e75 2eeb=9f4a 2eed=9f52 2eef=9f8d 2ef1=9f9c a73a=41.56 a73b=61.76",
        "10980-10986=109a0 10988-1098a=109a7 1098c=109aa 1098e=109ab 10990-10992=109ac",
        "10995-10998=109b1 1099a=109b5 1099c-1099d=109b6 109b0=109af 10b2e=10b2d 10c01=10c00",
        "10c04=10c03 10c08=10c07 10c0a=10c09 10c0c=10c0b 10c0e=10c0d 10c10=10c0f 10c12=10c11",
        "10c15=10c14 10c17=10c16 10c19=10c18 10c1b=10c1a 10c1d=10c1c 10c1f=10c1e 10c25=10c24",
        "10c27=10c26 10c29=10c28 10c2b=10c2a 10c2e=10c2d 10c33=10c32 10c35=10c34 10c37=10c36",
        "10c39=10c38 10c3b=10c3a 10c40=10c3f 10c42=10c41 10c44=10c43 10c46=10c45 10c81=10c80",
        "10c8a=10c89 10c91=10c90 10c9c=10c9b 10c9e=10c9d 10ca3=10ca2 10cab=10caa 10cad=10cac",
        "10cc1=10cc0 10cca=10cc9 10cd1=10cd0 10cdc=10cdb 10cde=10cdd 10ce3=10ce2 10ceb=10cea",
        "10ced=10cec 115d8=11582 115da-115db=11583 115dc-115dd=115b2 11705=11704 11716=11715",
        "1171a=11708 16e94-16e95=31 1ecb1-1ecb2=31 1ed2f-1ed36=32"]⟩,
    ⟨0x2, 0x8, none,
      [ "d8=4f.338 f8=6f.338 110=44.335 111=64.335 126=48.335 127=68.335 141=4c.335 142=6c.335",
        "384=b4 660-669=30 6f0-6f9=30 7c0-7c9=30 966-96f=30 9e6-9ef=30 a66-a6f=30 ae6-aef=30",
        "b66-b6f=30 be6-bef=30 c66-c6f=30 c78-c7b=30 c7c-c7e=31 ce6-cef=30 d66-d6f=30 de6-def=30",
        "e50-e59=30 ed0-ed9=30 f20-f29=30 1040-1049=30 1090-1099=30 1369-1371=31 17e0-17e9=30",
        "17f0-17f9=30 1810-1819=30 1946-194f=30 19d0-19d9=30 19da=31 1a80-1a89=30 1a90-1a99=30",
        "1b50-1b59=30 1bb0-1bb9=30 1c40-1c49=30 1c50-1c59=30 1fbf=1fbd 210f=68.335 2185=36",
        "3007=30 3021-3029=31 3032=3031.3099 3034=3033.3099 a620-a629=30 a8d0-a8d9=30",
        "a900-a909=30 a9d0-a9d9=30 a9f0-a9f9=30 aa50-aa59=30 abf0-abf9=30 fa0e-fa0f=fa0e",
        "fa11=fa11 fa13-fa14=fa13 fa1f=fa1f fa21=fa21 fa23-fa24=fa23 fa27-fa29=fa27",
        "10107-1010f=31 10142=31 10143=35 10148=35 1014f=35 10158=31 10159=31 1015a-1015b=31",
        "1015c=32 1015d=32 1015e=32 1015f=35 10173=35 1018a=30 102e1-102e9=31 10320=31 10321=35",
        "103d1-103d2=31 104a0-104a9=30 10858-1085a=31 10879-1087d=31 108a7-108aa=31",
        "108ab-108ac=34 108fb=31 108fc=35 10916=31 1091a-1091b=32 109c0-109c8=31 10a40-10a43=31",
        "10a7d=31 10a9d=31 10aeb=31 10aec=35 10b58-10b5b=31 10b78-10b7b=31 10ba9-10bac=31",
        "10cfa=31 10cfb=35 10d30-10d39=30 10e60-10e68=31 10f1d-10f21=31 10f51=31 10fc5-10fc8=31",
        "11052-1105a=31 11066-1106f=30 110f0-110f9=30 11136-1113f=30 111d0-111d9=30",
        "111e1-111e9=31 112f0-112f9=30 11450-11459=30 114d0-114d9=30 11650-11659=30",
        "116c0-116c9=30 11730-11739=30 118e0-118e9=30 11950-11959=30 11c50-11c59=30",
        "11c5a-11c62=31 11d50-11d59=30 11da0-11da9=30 11f50-11f59=30 12400-12407=32",
        "12408-1240e=33 1240f-12414=34 12415-1241d=31 1241e-12422=31 12423-12424=32",
        "12425-1242b=33 1242c-1242e=31 1242f-12431=33 12434-12436=31 12437-12439=33 1243a=33",
        "1243b-1243c=33 1243d=34 1243e=34 1243f=34 12440-12441=36 12442=37 12443-12444=37",
        "12445-12446=38 12447=39 12448=39 12449=39 1244a-1244e=32 1244f-12452=31 12453-12454=34",
        "12455=35 12456-12457=32 12458-12459=31 12469-1246e=34 16a60-16a69=30 16ac0-16ac9=30",
        "16b50-16b59=30 16e80-16e89=30 1d2e0-1d2e9=30 1d360-1d368=31 1d372-1d376=31 1d377=31",
        "1d378=35 1e140-1e149=30 1e2f0-1e2f9=30 1e4f0-1e4f9=30 1e8c7-1e8cf=31 1e950-1e959=30",
        "1ec71-1ec79=31 1eca3-1ecab=31 1ed01-1ed09=31"]⟩,
    ⟨0x2, 0x8, some 0x118, ["13f=4c 140=6c 2018=27 201c=22 301e=301d 16e96=33"]⟩,
    ⟨0x4, 0xa, some 0x119,
      [ "17f=73 490=413 491=433 6fd=621 6fe=645 714=713 71c=71b 727=726 f6a=f62 fba=fad",
        "fbb-fbc=fb1 16a5=16a2 16ac=16a8 16b4=16b2 16bc=16ba 16c0=16be 16d1=16cf 16d4=16d2",
        "16d9=16d7 16e8=16e6 16ea=16ca 1d79=67 1dd8=64 1de5=73 2e8d=5c0f 2eb4=7f53 2eb7=7f8a",
        "2ec0=8279 2ece=8fb6 2ef2=9f9c 31a0=3105 31a1=3117 31a2=3110 31a3=310d 31a5=31a4",
        "31a7=311b 31a9=311a 31aa-31ab=3127 31ae=311e 31af=3120 a779=44 a77a=64 a77b=46 a77c=66",
        "a77d=47 a782=52 a783=72 a784=53 a785=73 a786=54 a787=74 fb05=73.74 10987=109a6",
        "1098b=109a9 1098d=109aa 1098f=109ab 10993=109af 10999=109b4 1099b=109b5 10ac8=10ac7",
        "10c8b=10c89 10c9f=10c9d 10ccb=10cc9 10cdf=10cdd 10f10=10f0e 10f13=10f12 10f17=10f15",
        "10f1c=10f1a 10f45=10f41 115d9=11582"]⟩,
    ⟨0x19, 0x19, none,
      [ "3c2=3c3 5da=5db 5dd=5de 5df=5e0 5e3=5e4 5e5=5e6 724=723 1bbe=1b8a 1bbf=1b99 31b4=3106",
        "31b5=310a 31b6-31b7=310e 31bb=310d fb51=671 fb53=67b fb57=67e fb5b=680 fb5f=67a",
        "fb63=67f fb67=679 fb6b=6a4 fb6f=6a6 fb73=684 fb77=683 fb7b=686 fb7f=687 fb83=68d",
        "fb85=68c fb87=68e fb89=688 fb8b=698 fb8d=691 fb8f=6a9 fb93=6af fb97=6b3 fb9b=6b1",
        "fb9f=6ba fba1=6bb fba5=6d5.654 fba7=6c1 fbab=6be fbaf=6d2 fbb1=6d2.654 fbd4=6ad",
        "fbd8=6c7 fbda=6c6 fbdc=6c8 fbdf=6cb fbe1=6c5 fbe3=6c9 fbe5=6d0 fbeb=626.627",
        "fbed=626.6d5 fbef=626.648 fbf1=626.6c7 fbf3=626.6c6 fbf5=626.6c8 fbf7=626.6d0",
        "fbfa=626.649 fbfd=6cc fc64=626.631 fc65=626.632 fc66=626.645 fc67=626.646 fc68=626.649",
        "fc69=626.64a fc6a=628.631 fc6b=628.632 fc6c=628.645 fc6d=628.646 fc6e=628.649",
        "fc6f=628.64a fc70=62a.631 fc71=62a.632 fc72=62a.645 fc73=62a.646 fc74=62a.649",
        "fc75=62a.64a fc76=62b.631 fc77=62b.632 fc78=62b.645 fc79=62b.646 fc7a=62b.649",
        "fc7b=62b.64a fc7c=641.649 fc7d=641.64a fc7e=642.649 fc7f=642.64a fc80=643.627",
        "fc81=643.644 fc82=643.645 fc83=643.649 fc84=643.64a fc85=644.645 fc86=644.649",
        "fc87=644.64a fc88=645.627 fc89=645.645 fc8a=646.631 fc8b=646.632 fc8c=646.645",
        "fc8d=646.646 fc8e=646.649 fc8f=646.64a fc90=649.670 fc91=64a.631 fc92=64a.632",
        "fc93=64a.645 fc94=64a.646 fc95=64a.649 fc96=64a.64a fd11=637.649 fd12=637.64a",
        "fd13=639.649 fd14=639.64a fd15=63a.649 fd16=63a.64a fd17=633.649 fd18=633.64a",
        "fd19=634.649 fd1a=634.64a fd1b=62d.649 fd1c=62d.64a fd1d=62c.649 fd1e=62c.64a",
        "fd1f=62e.649 fd20=62e.64a fd21=635.649 fd22=635.64a fd23=636.649 fd24=636.64a",
        "fd25=634.62c fd26=634.62d fd27=634.62e fd28=634.645 fd29=634.631 fd2a=633.631",
        "fd2b=635.631 fd2c=636.631 fd3c=627.64b fd51=62a.62d.62c fd58=62c.645.62d",
        "fd5a=62d.645.64a fd5b=62d.645.649 fd5e=633.62c.649 fd5f=633.645.62d fd62=633.645.645",
        "fd64=635.62d.62d fd66=635.645.645 fd67=634.62d.645 fd69=634.62c.64a fd6a=634.645.62e",
        "fd6c=634.645.645 fd6e=636.62d.649 fd6f=636.62e.645 fd71=637.645.62d fd74=637.645.64a",
        "fd75=639.62c.645 fd76=639.645.645 fd78=639.645.649 fd79=63a.645.645 fd7a=63a.645.64a",
        "fd7b=63a.645.649 fd7c=641.62e.645 fd7e=642.645.62d fd7f=642.645.645 fd80=644.62d.645",
        "fd81=644.62d.64a fd82=644.62d.649 fd84=644.62c.62c fd85=644.62e.645 fd87=644.645.62d",
        "fd8b=645.62d.64a fd96=646.62d.649 fd97=646.62c.645 fd99=646.62c.649 fd9a=646.645.64a",
        "fd9b=646.645.649 fd9c=64a.645.645 fd9e=628.62e.64a fd9f=62a.62c.64a fda0=62a.62c.649",
        "fda1=62a.62e.64a fda2=62a.62e.649 fda3=62a.645.64a fda4=62a.645.649 fda5=62c.645.64a",
        "fda6=62c.62d.649 fda7=62c.645.649 fda8=633.62e.649 fda9=635.62d.64a fdaa=634.62d.64a",
        "fdab=636.62d.64a fdac=644.62c.64a fdad=644.645.64a fdae=64a.62d.64a fdaf=64a.62c.64a",
        "fdb0=64a.645.64a fdb1=645.645.64a fdb2=642.645.64a fdb3=646.62d.64a fdb6=639.645.64a",
        "fdb7=643.645.64a fdb9=645.62e.64a fdbb=643.645.645 fdbc=644.62c.645 fdbd=646.62c.62d",
        "fdbe=62c.62d.64a fdbf=62d.62c.64a fdc0=645.62c.64a fdc1=641.645.64a fdc2=628.62d.64a",
        "fdc6=633.62e.64a fdc7=646.62c.64a fe82=622 fe84=623 fe86=624 fe88=625 fe8a=626 fe8e=627",
        "fe90=628 fe94=629 fe96=62a fe9a=62b fe9e=62c fea2=62d fea6=62e feaa=62f feac=630",
        "feae=631 feb0=632 feb2=633 feb6=634 feba=635 febe=636 fec2=637 fec6=638 feca=639",
        "fece=63a fed2=641 fed6=642 feda=643 fede=644 fee2=645 fee6=646 feea=647 feee=648",
        "fef0=649 fef2=64a fef6=644.622 fef8=644.623 fefa=644.625 fefc=644.627 1086d=1086e",
        "10880=10881 10882=10883 10886=10887 1088c=1088d 1088e=1088f 10890=10891 10892=10893",
        "10894=10895 1089c=1089d 10f01=10f00 10f03=10f02 10f06=10f05 10f0f=10f0e 10f16=10f15",
        "10f1b=10f1a 11a3b-11a3e=11a2a 11a8a-11a8b=11a5c 11a8c=11a60 11a8d=11a6b",
        "11a8e-11a8f=11a6f 11a90=11a74 11a91-11a92=11a7c 11a93=11a7f 11a94=11a81 11a95=11a7a",
        "11d47=11d26"]⟩,
    ⟨0x4, 0xa, some 0x11a,
      [ "72d-72e=712 72f=715 16ad=16a8 16b5=16b2 16bd=16ba 16cc=16ca 31a8=3128 10994=109af"]⟩,
    ⟨0x4, 0xa, some 0x11b, ["16ae=16a8 16b6=16b2 16cd=16ca"]⟩,
    ⟨0x4, 0xa, some 0x11c, ["16ce=16ca"]⟩,
    ⟨0x1c, 0x1d, none,
      [ "1d2c=41 1d2e=42 1d30-1d31=44 1d32=18e 1d33-1d3a=47 1d3c=4f 1d3d=222 1d3e=50 1d3f=52",
        "1d40-1d41=54 1d42=57 2c7d=56 3250=50.54.45 32cc=48.67 32cd=65.72.67 32ce=65.56",
        "32cf=4c.54.44 32ff=4ee4.548c 3300=3042.306f.309a.30fc.3068 3301=3042.308b.3075.3042",
        "3302=3042.3093.3078.309a.3042 3303=3042.30fc.308b 3304=3044.306b.3093.304f.3099",
        "3305=3044.3093.3061 3306=3046.304a.3093 3307=3048.3059.304f.30fc.3068.3099",
        "3308=3048.30fc.304b.30fc 3309=304a.3093.3059 330a=304a.30fc.3080 330b=304b.3044.308a",
        "330c=304b.3089.3064.3068 330d=304b.308d.308a.30fc 330e=304b.3099.308d.3093",
        "330f=304b.3099.3093.307e 3310=304d.3099.304b.3099 3311=304d.3099.306b.30fc",
        "3312=304d.3086.308a.30fc 3313=304d.3099.308b.305f.3099.30fc 3314=304d.308d",
        "3315=304d.308d.304f.3099.3089.3080 3316=304d.308d.3081.30fc.3068.308b",
        "3317=304d.308d.308f.3064.3068 3318=304f.3099.3089.3080",
        "3319=304f.3099.3089.3080.3068.3093 331a=304f.308b.305b.3099.3044.308d",
        "331b=304f.308d.30fc.306d 331c=3051.30fc.3059 331d=3053.308b.306a",
        "331e=3053.30fc.307b.309a 331f=3055.3044.304f.308b 3320=3055.3093.3061.30fc.3080",
        "3321=3057.308a.3093.304f.3099 3322=305b.3093.3061 3323=305b.3093.3068",
        "3324=305f.3099.30fc.3059 3325=3066.3099.3057 3326=3068.3099.308b 3327=3068.3093",
        "3328=306a.306e 3329=306e.3064.3068 332a=306f.3044.3064",
        "332b=306f.309a.30fc.305b.3093.3068 332c=306f.309a.30fc.3064",
        "332d=306f.3099.30fc.308c.308b 332e=3072.309a.3042.3059.3068.308b",
        "332f=3072.309a.304f.308b 3330=3072.309a.3053 3331=3072.3099.308b",
        "3332=3075.3042.3089.3064.3068.3099 3333=3075.3044.30fc.3068",
        "3334=3075.3099.3064.3057.3048.308b 3335=3075.3089.3093 3336=3078.304f.305f.30fc.308b",
        "3337=3078.309a.305d 3338=3078.309a.306b.3072 3339=3078.308b.3064",
        "333a=3078.309a.3093.3059 333b=3078.309a.30fc.3057.3099 333c=3078.3099.30fc.305f",
        "333d=307b.309a.3044.3093.3068 333e=307b.3099.308b.3068 333f=307b.3093",
        "3340=307b.309a.3093.3068.3099 3341=307b.30fc.308b 3342=307b.30fc.3093",
        "3343=307e.3044.304f.308d 3344=307e.3044.308b 3345=307e.3064.306f 3346=307e.308b.304f",
        "3347=307e.3093.3057.3088.3093 3348=307f.304f.308d.3093 3349=307f.308a",
        "334a=307f.308a.306f.3099.30fc.308b 334b=3081.304b.3099 334c=3081.304b.3099.3068.3093",
        "334d=3081.30fc.3068.308b 334e=3084.30fc.3068.3099 334f=3084.30fc.308b",
        "3350=3086.3042.3093 3351=308a.3064.3068.308b 3352=308a.3089 3353=308b.3072.309a.30fc",
        "3354=308b.30fc.3075.3099.308b 3355=308c.3080 3356=308c.3093.3068.3051.3099.3093",
        "3357=308f.3064.3068 3371=68.50.61 3372=64.61 3373=41.55 3374=62.61.72 3375=6f.56",
        "3376=70.63 3377=64.6d 3378=64.6d.32 3379=64.6d.33 337a=49.55 337b=5e73.6210",
        "337c=662d.548c 337d=5927.6b63 337e=660e.6cbb 337f=682a.5f0f.4f1a.793e 3380=70.41",
        "3381=6e.41 3382=3bc.41 3383=6d.41 3384=6b.41 3385=4b.42 3386=4d.42 3387=47.42",
        "3388=63.61.6c 3389=6b.63.61.6c 338a=70.46 338b=6e.46 338c=3bc.46 338d=3bc.67 338e=6d.67",
        "338f=6b.67 3390=48.7a 3391=6b.48.7a 3392=4d.48.7a 3393=47.48.7a 3394=54.48.7a",
        "3395=3bc.6c 3396=6d.6c 3397=64.6c 3398=6b.6c 3399=66.6d 339a=6e.6d 339b=3bc.6d",
        "339c=6d.6d 339d=63.6d 339e=6b.6d 339f=6d.6d.32 33a0=63.6d.32 33a1=6d.32 33a2=6b.6d.32",
        "33a3=6d.6d.33 33a4=63.6d.33 33a5=6d.33 33a6=6b.6d.33 33a7=6d.2215.73 33a8=6d.2215.73.32",
        "33a9=50.61 33aa=6b.50.61 33ab=4d.50.61 33ac=47.50.61 33ad=72.61.64",
        "33ae=72.61.64.2215.73 33af=72.61.64.2215.73.32 33b0=70.73 33b1=6e.73 33b2=3bc.73",
        "33b3=6d.73 33b4=70.56 33b5=6e.56 33b6=3bc.56 33b7=6d.56 33b8=6b.56 33b9=4d.56",
        "33ba=70.57 33bb=6e.57 33bc=3bc.57 33bd=6d.57 33be=6b.57 33bf=4d.57 33c0=6b.3a9",
        "33c1=4d.3a9 33c2=61.2e.6d.2e 33c3=42.71 33c4=63.63 33c5=63.64 33c6=43.2215.6b.67",
        "33c7=43.6f.2e 33c8=64.42 33c9=47.79 33ca=68.61 33cb=48.50 33cc=69.6e 33cd=4b.4b",
        "33ce=4b.4d 33cf=6b.74 33d0=6c.6d 33d1=6c.6e 33d2=6c.6f.67 33d3=6c.78 33d4=6d.62",
        "33d5=6d.69.6c 33d6=6d.6f.6c 33d7=50.48 33d8=70.2e.6d.2e 33d9=50.50.4d 33da=50.52",
        "33db=73.72 33dc=53.76 33dd=57.62 33de=56.2215.6d 33df=41.2215.6d 33ff=67.61.6c",
        "1f130-1f149=41 1f14a=48.56 1f14b=4d.56 1f14c=53.44 1f14d=53.53 1f14e=50.50.56",
        "1f14f=57.43 1f170-1f189=41 1f18a=50 1f18b=49.43 1f18c=50.41 1f18d=53.41 1f18e=41.42",
        "1f18f=57.43 1f190=44.4a 1f191=43.4c 1f192=43.4f.4f.4c 1f193=46.52.45.45 1f194=49.44",
        "1f195=4e.45.57 1f196=4e.47 1f197=4f.4b 1f198=53.4f.53 1f199=55.50.21 1f19a=56.53",
        "1f19b=33.44 1f19c=32.6e.64.20.53.63.72 1f19d=32.4b 1f19e=34.4b 1f19f=38.4b",
        "1f1a0=35.2e.31 1f1a1=37.2e.31 1f1a2=32.32.2e.32 1f1a3=36.30.50 1f1a4=31.32.30.50",
        "1f1a5=64 1f1a6=48.63 1f1a7=48.64.52 1f1a8=48.69.20.52.65.73",
        "1f1a9=4c.6f.73.73.6c.65.73.73 1f1aa=53.48.56 1f1ab=55.48.44 1f1ac=56.4f.44",
        "1f200=307b.304b 1f201=3053.3053 1f202=3055 1f210=624b 1f211=5b57 1f212=53cc",
        "1f213=3066.3099 1f214=4e8c 1f215=591a 1f216=89e3 1f217=5929 1f218=4ea4 1f219=6620",
        "1f21a=7121 1f21b=6599 1f21c=524d 1f21d=5f8c 1f21e=518d 1f21f=65b0 1f220=521d 1f221=7d42",
        "1f222=751f 1f223=8ca9 1f224=58f0 1f225=5439 1f226=6f14 1f227=6295 1f228=6355 1f229=4e00",
        "1f22a=4e09 1f22b=904a 1f22c=5de6 1f22d=4e2d 1f22e=53f3 1f22f=6307 1f230=8d70 1f231=6253",
        "1f232=7981 1f233=7a7a 1f234=5408 1f235=6e80 1f236=6709 1f237=6708 1f238=7533 1f239=5272",
        "1f23a=55b6 1f23b=914d"]⟩,
    ⟨0x14, 0x14, some 0x118, ["1d2d=61.65 1d9e=64 a7f9=6f.65"]⟩,
    ⟨0x15, 0x15, none,
      [ "1d62=69 1d63=72 1d64-1d65=75 1d66-1d67=3b2 1d68=3c1 1d69-1d6a=3c6 2080-2089=30 208a=2b",
        "208b=2212 208c=3d 208d-208e=28 2090=61 2091=65 2092=6f 2093=78 2094=259 2095=68",
        "2096-2099=6b 209a=70 209b-209c=73 2c7c=6a 1e051-1e059=430 1e05a-1e05b=43a",
        "1e05c-1e05d=43e 1e05e=441 1e05f-1e064=443 1e065-1e066=44a 1e067=491 1e068=456 1e069=455",
        "1e06a=45f"]⟩,
    ⟨0x5, 0xb, none,
      [ "2102=43 210a=67 210b=48 210c=48 210d=48 210e=68 2110=49 2111=49 2112=4c 2113=6c 2115=4e",
        "2119-211b=50 211c=52 211d=52 2124=5a 2128=5a 212c-212d=42 212f=65 2130-2131=45 2133=4d",
        "2134=6f 2139=69 213c=3c0 213d=3b3 213e=393 213f=3a0 2140=2211 2145=44 2146-2147=64",
        "2148-2149=69 fb20=5e2 fb21=5d0 fb22-fb23=5d3 fb24-fb25=5db fb26=5de fb27=5e8 fb28=5ea",
        "fb29=2b 1d400-1d419=41 1d41a-1d433=61 1d434-1d44d=41 1d44e-1d454=61 1d456-1d467=69",
        "1d468-1d481=41 1d482-1d49b=61 1d49c=41 1d49e-1d49f=43 1d4a2=47 1d4a5-1d4a6=4a",
        "1d4a9-1d4ac=4e 1d4ae-1d4b5=53 1d4b6-1d4b9=61 1d4bb=66 1d4bd-1d4c3=68 1d4c5-1d4cf=70",
        "1d4d0-1d4e9=41 1d4ea-1d503=61 1d504-1d505=41 1d507-1d50a=44 1d50d-1d514=4a",
        "1d516-1d51c=53 1d51e-1d537=61 1d538-1d539=41 1d53b-1d53e=44 1d540-1d544=49 1d546=4f",
        "1d54a-1d550=53 1d552-1d56b=61 1d56c-1d585=41 1d586-1d59f=61 1d5a0-1d5b9=41",
        "1d5ba-1d5d3=61 1d5d4-1d5ed=41 1d5ee-1d607=61 1d608-1d621=41 1d622-1d63b=61",
        "1d63c-1d655=41 1d656-1d66f=61 1d670-1d689=41 1d68a-1d6a3=61 1d6a4=131 1d6a5=237",
        "1d6a8-1d6b8=391 1d6b9=398 1d6ba-1d6c0=3a3 1d6c1=2207 1d6c2-1d6d2=3b1 1d6d3=3c3",
        "1d6d4-1d6da=3c3 1d6db=2202 1d6dc=3b5 1d6dd=3b8 1d6de=3ba 1d6df=3c6 1d6e0=3c1 1d6e1=3c0",
        "1d6e2-1d6f2=391 1d6f3=398 1d6f4-1d6fa=3a3 1d6fb=2207 1d6fc-1d70c=3b1 1d70d=3c3",
        "1d70e-1d714=3c3 1d715=2202 1d716=3b5 1d717=3b8 1d718=3ba 1d719=3c6 1d71a=3c1 1d71b=3c0",
        "1d71c-1d72c=391 1d72d=398 1d72e-1d734=3a3 1d735=2207 1d736-1d746=3b1 1d747=3c3",
        "1d748-1d74e=3c3 1d74f=2202 1d750=3b5 1d751=3b8 1d752=3ba 1d753=3c6 1d754=3c1 1d755=3c0",
        "1d756-1d766=391 1d767=398 1d768-1d76e=3a3 1d76f=2207 1d770-1d780=3b1 1d781=3c3",
        "1d782-1d788=3c3 1d789=2202 1d78a=3b5 1d78b=3b8 1d78c=3ba 1d78d=3c6 1d78e=3c1 1d78f=3c0",
        "1d790-1d7a0=391 1d7a1=398 1d7a2-1d7a8=3a3 1d7a9=2207 1d7aa-1d7ba=3b1 1d7bb=3c3",
        "1d7bc-1d7c2=3c3 1d7c3=2202 1d7c4=3b5 1d7c5=3b8 1d7c6=3ba 1d7c7=3c6 1d7c8=3c1 1d7c9=3c0",
        "1d7ca-1d7cb=3dc 1d7ce-1d7d7=30 1d7d8-1d7e1=30 1d7e2-1d7eb=30 1d7ec-1d7f5=30",
        "1d7f6-1d7ff=30 1ee00-1ee01=627 1ee02=62c 1ee03=62f 1ee05=648 1ee06=632 1ee07=62d",
        "1ee08=637 1ee09=64a 1ee0a-1ee0d=643 1ee0e=633 1ee0f=639 1ee10=641 1ee11=635 1ee12=642",
        "1ee13=631 1ee14=634 1ee15-1ee16=62a 1ee17=62e 1ee18=630 1ee19=636 1ee1a=638 1ee1b=63a",
        "1ee1c=66e 1ee1d=6ba 1ee1e=6a1 1ee1f=66f 1ee21=628 1ee22=62c 1ee24=647 1ee27=62d",
        "1ee29=64a 1ee2a-1ee2d=643 1ee2e=633 1ee2f=639 1ee30=641 1ee31=635 1ee32=642 1ee34=634",
        "1ee35-1ee36=62a 1ee37=62e 1ee39=636 1ee3b=63a 1ee42=62c 1ee47=62d 1ee49=64a 1ee4b=644",
        "1ee4d=646 1ee4e=633 1ee4f=639 1ee51=635 1ee52=642 1ee54=634 1ee57=62e 1ee59=636",
        "1ee5b=63a 1ee5d=6ba 1ee5f=66f 1ee61=628 1ee62=62c 1ee64=647 1ee67=62d 1ee68=637",
        "1ee69=64a 1ee6a=643 1ee6c-1ee6d=645 1ee6e=633 1ee6f=639 1ee70=641 1ee71=635 1ee72=642",
        "1ee74=634 1ee75-1ee76=62a 1ee77=62e 1ee79=636 1ee7a=638 1ee7b=63a 1ee7c=66e 1ee7e=6a1",
        "1ee80-1ee81=627 1ee82=62c 1ee83=62f 1ee84-1ee85=647 1ee86=632 1ee87=62d 1ee88=637",
        "1ee89=64a 1ee8b-1ee8d=644 1ee8e=633 1ee8f=639 1ee90=641 1ee91=635 1ee92=642 1ee93=631",
        "1ee94=634 1ee95-1ee96=62a 1ee97=62e 1ee98=630 1ee99=636 1ee9a=638 1ee9b=63a 1eea1=628",
        "1eea2=62c 1eea3=62f 1eea5=648 1eea6=632 1eea7=62d 1eea8=637 1eea9=64a 1eeab-1eead=644",
        "1eeae=633 1eeaf=639 1eeb0=641 1eeb1=635 1eeb2=642 1eeb3=631 1eeb4=634 1eeb5-1eeb6=62a",
        "1eeb7=62e 1eeb8=630 1eeb9=636 1eeba=638 1eebb=63a 1fbf0-1fbf9=30"]⟩,
    ⟨0x6, 0xc, none,
      [ "2460-2468=31 2469=31.30 246a=31.31 246b=31.32 246c=31.33 246d=31.34 246e=31.35",
        "246f=31.36 2470=31.37 2471=31.38 2472=31.39 2473=32.30 24b6-24cf=41 24d0-24e9=61",
        "24ea=30 24eb=31.31 24ec=31.32 24ed=31.33 24ee=31.34 24ef=31.35 24f0=31.36 24f1=31.37",
        "24f2=31.38 24f3=31.39 24f4=32.30 24f5-24fd=31 24fe=31.30 24ff=30 2776-277e=31",
        "277f=31.30 2780-2788=31 2789=31.30 278a-2792=31 2793=31.30 3244=554f 3245=5e7c",
        "3246=6587 3247=7b8f 3248=31.30 3249=32.30 324a=33.30 324b=34.30 324c=35.30 324d=36.30",
        "324e=37.30 324f=38.30 3251=32.31 3252=32.32 3253=32.33 3254=32.34 3255=32.35 3256=32.36",
        "3257=32.37 3258=32.38 3259=32.39 325a=33.30 325b=33.31 325c=33.32 325d=33.33 325e=33.34",
        "325f=33.35 3260=1100 3261-3262=1102 3263-3265=1105 3266=1109 3267-3268=110b",
        "3269-326d=110e 326e=1100.1161 326f=1102.1161 3270=1103.1161 3271=1105.1161",
        "3272=1106.1161 3273=1107.1161 3274=1109.1161 3275=110b.1161 3276=110c.1161",
        "3277=110e.1161 3278=110f.1161 3279=1110.1161 327a=1111.1161 327b=1112.1161",
        "327c=110e.1161.11b7.1100.1169 327d=110c.116e.110b.1174 327e=110b.116e 3280=4e00",
        "3281=4e8c 3282=4e09 3283=56db 3284=4e94 3285=516d 3286=4e03 3287=516b 3288=4e5d",
        "3289=5341 328a=6708 328b=706b 328c=6c34 328d=6728 328e=91d1 328f=571f 3290=65e5",
        "3291=682a 3292=6709 3293=793e 3294=540d 3295=7279 3296=8ca1 3297=795d 3298=52b4",
        "3299=79d8 329a=7537 329b=5973 329c=9069 329d=512a 329e=5370 329f=6ce8 32a0=9805",
        "32a1=4f11 32a2=5199 32a3=6b63 32a4=4e0a 32a5=4e2d 32a6=4e0b 32a7=5de6 32a8=53f3",
        "32a9=533b 32aa=5b97 32ab=5b66 32ac=76e3 32ad=4f01 32ae=8cc7 32af=5354 32b0=591c",
        "32b1=33.36 32b2=33.37 32b3=33.38 32b4=33.39 32b5=34.30 32b6=34.31 32b7=34.32 32b8=34.33",
        "32b9=34.34 32ba=34.35 32bb=34.36 32bc=34.37 32bd=34.38 32be=34.39 32bf=35.30 1f10b=30",
        "1f10c=30 1f12b=43 1f12c=52 1f12d=43.44 1f12e=57.5a 1f150-1f169=41 1f250=5f97 1f251=53ef"]⟩,
    ⟨0x3, 0x9, none,
      [ "3000=20 ff01-ff5e=21 ff5f-ff60=2985 ffe0-ffe1=a2 ffe2=ac ffe3=af ffe4=a6 ffe5=a5",
        "ffe6=20a9"]⟩,
    ⟨0xd, 0xd, none,
      [ "3041=3042 3043=3044 3045=3046 3047=3048 3049=304a 3063=3064 3083=3084 3085=3086",
        "3087=3088 308e=308f 3095=304b 3096=3051 1b132=3053 1b150-1b152=3090"]⟩,
    ⟨0x16, 0x16, none,
      [ "309f=3088.308a 30ff=3053.3068 fe10=2c fe11-fe12=3001 fe13-fe14=3a fe15=21 fe16=3f",
        "fe17-fe18=3016 fe19=2e.2e.2e fe30=2e.2e fe31=2014 fe32=2013 fe33=5f fe34=5f",
        "fe35-fe36=28 fe37=7b fe38=7d fe39-fe3a=3014 fe3b-fe3c=3010 fe3d-fe3e=300a",
        "fe3f-fe40=3008 fe41-fe44=300c fe47=5b fe48=5d"]⟩,
    ⟨0xf, 0xf, none,
      [ "30a1=3042 30a3=3044 30a5=3046 30a7=3048 30a9=304a 30c3=3064 30e3=3084 30e5=3086",
        "30e7=3088 30ee=308f 30f5=304b 30f6=3051 31f0=304f 31f1=3057 31f2=3059 31f3=3068",
        "31f4=306c 31f5=306f 31f6=3072 31f7=3075 31f8=3078 31f9=307b 31fa=3080 31fb-31ff=3089",
        "fe50=2c fe51=3001 fe52=2e fe54=3b fe55=3a fe56=3f fe57=21 fe58=2014 fe59-fe5a=28",
        "fe5b=7b fe5c=7d fe5d-fe5e=3014 fe5f=23 fe60=26 fe61-fe62=2a fe63=2d fe64=3c fe65=3e",
        "fe66=3d fe68=5c fe69-fe6a=24 fe6b=40 1b155=3053 1b164-1b167=3090"]⟩,
    ⟨0x11, 0x11, none,
      [ "30a2=3042 30a4=3044 30a6=3046 30a8=3048 30aa-30ab=304a 30ad=304d 30af=304f 30b1=3051",
        "30b3=3053 30b5=3055 30b7=3057 30b9=3059 30bb=305b 30bd=305d 30bf=305f 30c1=3061",
        "30c4=3064 30c6=3066 30c8=3068 30ca-30cf=306a 30d2=3072 30d5=3075 30d8=3078 30db=307b",
        "30de-30e2=307e 30e4=3084 30e6=3086 30e8-30ed=3088 30ef-30f3=308f"]⟩,
    ⟨0x16, 0x16, some 0x119, ["31b3=3127"]⟩,
    ⟨0x13, 0x13, none,
      [ "32d0=3042 32d1=3044 32d2=3046 32d3=3048 32d4-32d5=304a 32d6=304d 32d7=304f 32d8=3051",
        "32d9=3053 32da=3055 32db=3057 32dc=3059 32dd=305b 32de=305d 32df=305f 32e0=3061",
        "32e1=3064 32e2=3066 32e3=3068 32e4-32e9=306a 32ea=3072 32eb=3075 32ec=3078 32ed=307b",
        "32ee-32f2=307e 32f3=3084 32f4=3086 32f5-32fa=3088 32fb-32fe=308f"]⟩,
    ⟨0x1a, 0x1a, none,
      [ "fb50=671 fb52=67b fb56=67e fb5a=680 fb5e=67a fb62=67f fb66=679 fb6a=6a4 fb6e=6a6",
        "fb72=684 fb76=683 fb7a=686 fb7e=687 fb82=68d fb84=68c fb86=68e fb88=688 fb8a=698",
        "fb8c=691 fb8e=6a9 fb92=6af fb96=6b3 fb9a=6b1 fb9e=6ba fba0=6bb fba4=6d5.654 fba6=6c1",
        "fbaa=6be fbae=6d2 fbb0=6d2.654 fbd3=6ad fbd7=6c7 fbd9=6c6 fbdb=6c8 fbdd=6c7.621",
        "fbde=6cb fbe0=6c5 fbe2=6c9 fbe4=6d0 fbea=626.627 fbec=626.6d5 fbee=626.648 fbf0=626.6c7",
        "fbf2=626.6c6 fbf4=626.6c8 fbf6=626.6d0 fbf9=626.649 fbfc=6cc fc00=626.62c fc01=626.62d",
        "fc02=626.645 fc03=626.649 fc04=626.64a fc05=628.62c fc06=628.62d fc07=628.62e",
        "fc08=628.645 fc09=628.649 fc0a=628.64a fc0b=62a.62c fc0c=62a.62d fc0d=62a.62e",
        "fc0e=62a.645 fc0f=62a.649 fc10=62a.64a fc11=62b.62c fc12=62b.645 fc13=62b.649",
        "fc14=62b.64a fc15=62c.62d fc16=62c.645 fc17=62d.62c fc18=62d.645 fc19=62e.62c",
        "fc1a=62e.62d fc1b=62e.645 fc1c=633.62c fc1d=633.62d fc1e=633.62e fc1f=633.645",
        "fc20=635.62d fc21=635.645 fc22=636.62c fc23=636.62d fc24=636.62e fc25=636.645",
        "fc26=637.62d fc27=637.645 fc28=638.645 fc29=639.62c fc2a=639.645 fc2b=63a.62c",
        "fc2c=63a.645 fc2d=641.62c fc2e=641.62d fc2f=641.62e fc30=641.645 fc31=641.649",
        "fc32=641.64a fc33=642.62d fc34=642.645 fc35=642.649 fc36=642.64a fc37=643.627",
        "fc38=643.62c fc39=643.62d fc3a=643.62e fc3b=643.644 fc3c=643.645 fc3d=643.649",
        "fc3e=643.64a fc3f=644.62c fc40=644.62d fc41=644.62e fc42=644.645 fc43=644.649",
        "fc44=644.64a fc45=645.62c fc46=645.62d fc47=645.62e fc48=645.645 fc49=645.649",
        "fc4a=645.64a fc4b=646.62c fc4c=646.62d fc4d=646.62e fc4e=646.645 fc4f=646.649",
        "fc50=646.64a fc51=647.62c fc52=647.645 fc53=647.649 fc54=647.64a fc55=64a.62c",
        "fc56=64a.62d fc57=64a.62e fc58=64a.645 fc59=64a.649 fc5a=64a.64a fc5b=630.670",
        "fc5c=631.670 fc5d=649.670 fc5e=64c.651 fc5f=64d.651 fc60=64e.651 fc61=64f.651",
        "fc62=650.651 fc63=651.670 fcf5=637.649 fcf6=637.64a fcf7=639.649 fcf8=639.64a",
        "fcf9=63a.649 fcfa=63a.64a fcfb=633.649 fcfc=633.64a fcfd=634.649 fcfe=634.64a",
        "fcff=62d.649 fd00=62d.64a fd01=62c.649 fd02=62c.64a fd03=62e.649 fd04=62e.64a",
        "fd05=635.649 fd06=635.64a fd07=636.649 fd08=636.64a fd09=634.62c fd0a=634.62d",
        "fd0b=634.62e fd0c=634.645 fd0d=634.631 fd0e=633.631 fd0f=635.631 fd10=636.631",
        "fd3d=627.64b fdf0=635.644.6d2 fdf1=642.644.6d2 fdf2=627.644.644.647",
        "fdf3=627.643.628.631 fdf4=645.62d.645.62f fdf5=635.644.639.645 fdf6=631.633.648.644",
        "fdf7=639.644.64a.647 fdf8=648.633.644.645 fdf9=635.644.649",
        "fdfa=635.644.649.20.627.644.644.647.20.639.644.64a.647.20.648.633.644.645",
        "fdfb=62c.644.20.62c.644.627.644.647 fdfc=631.6cc.627.644 fe70=64b fe72=64c fe74=64d",
        "fe76=64e fe78=64f fe7a=650 fe7c=651 fe7e=652 fe80-fe81=621 fe83=623 fe85=624 fe87=625",
        "fe89=626 fe8d=627 fe8f=628 fe93=629 fe95=62a fe99=62b fe9d=62c fea1=62d fea5=62e",
        "fea9=62f feab=630 fead=631 feaf=632 feb1=633 feb5=634 feb9=635 febd=636 fec1=637",
        "fec5=638 fec9=639 fecd=63a fed1=641 fed5=642 fed9=643 fedd=644 fee1=645 fee5=646",
        "fee9=647 feed=648 feef=649 fef1=64a fef5=644.622 fef7=644.623 fef9=644.625 fefb=644.627"]⟩,
    ⟨0x17, 0x17, none,
      [ "fb54=67b fb58=67e fb5c=680 fb60=67a fb64=67f fb68=679 fb6c=6a4 fb70=6a6 fb74=684",
        "fb78=683 fb7c=686 fb80=687 fb90=6a9 fb94=6af fb98=6b3 fb9c=6b1 fba2=6bb fba8=6c1",
        "fbac=6be fbd5=6ad fbe6=6d0 fbe8=649 fbf8=626.6d0 fbfb=626.649 fbfe=6cc fc97=626.62c",
        "fc98=626.62d fc99=626.62e fc9a=626.645 fc9b=626.647 fc9c=628.62c fc9d=628.62d",
        "fc9e=628.62e fc9f=628.645 fca0=628.647 fca1=62a.62c fca2=62a.62d fca3=62a.62e",
        "fca4=62a.645 fca5=62a.647 fca6=62b.645 fca7=62c.62d fca8=62c.645 fca9=62d.62c",
        "fcaa=62d.645 fcab=62e.62c fcac=62e.645 fcad=633.62c fcae=633.62d fcaf=633.62e",
        "fcb0=633.645 fcb1=635.62d fcb2=635.62e fcb3=635.645 fcb4=636.62c fcb5=636.62d",
        "fcb6=636.62e fcb7=636.645 fcb8=637.62d fcb9=638.645 fcba=639.62c fcbb=639.645",
        "fcbc=63a.62c fcbd=63a.645 fcbe=641.62c fcbf=641.62d fcc0=641.62e fcc1=641.645",
        "fcc2=642.62d fcc3=642.645 fcc4=643.62c fcc5=643.62d fcc6=643.62e fcc7=643.644",
        "fcc8=643.645 fcc9=644.62c fcca=644.62d fccb=644.62e fccc=644.645 fccd=644.647",
        "fcce=645.62c fccf=645.62d fcd0=645.62e fcd1=645.645 fcd2=646.62c fcd3=646.62d",
        "fcd4=646.62e fcd5=646.645 fcd6=646.647 fcd7=647.62c fcd8=647.645 fcd9=647.670",
        "fcda=64a.62c fcdb=64a.62d fcdc=64a.62e fcdd=64a.645 fcde=64a.647 fd2d=634.62c",
        "fd2e=634.62d fd2f=634.62e fd30=634.645 fd31=633.647 fd32=634.647 fd33=637.645",
        "fd50=62a.62c.645 fd52=62a.62d.62c fd53=62a.62d.645 fd54=62a.62e.645 fd55=62a.645.62c",
        "fd56=62a.645.62d fd57=62a.645.62e fd59=62c.645.62d fd5c=633.62d.62c fd5d=633.62c.62d",
        "fd60=633.645.62d fd61=633.645.62c fd63=633.645.645 fd65=635.62d.62d fd68=634.62d.645",
        "fd6b=634.645.62e fd6d=634.645.645 fd70=636.62e.645 fd72=637.645.62d fd73=637.645.645",
        "fd77=639.645.645 fd7d=641.62e.645 fd83=644.62c.62c fd86=644.62e.645 fd88=644.645.62d",
        "fd89=645.62d.62c fd8a=645.62d.645 fd8c=645.62c.62d fd8d=645.62c.645 fd8e=645.62e.62c",
        "fd8f=645.62e.645 fd92=645.62c.62e fd93=647.645.62c fd94=647.645.645 fd95=646.62d.645",
        "fd98=646.62c.645 fd9d=64a.645.645 fdb4=642.645.62d fdb5=644.62d.645 fdb8=646.62c.62d",
        "fdba=644.62c.645 fdc3=643.645.645 fdc4=639.62c.645 fdc5=635.645.645 fe8b=626 fe91=628",
        "fe97=62a fe9b=62b fe9f=62c fea3=62d fea7=62e feb3=633 feb7=634 febb=635 febf=636",
        "fec3=637 fec7=638 fecb=639 fecf=63a fed3=641 fed7=642 fedb=643 fedf=644 fee3=645",
        "fee7=646 feeb=647 fef3=64a 11a3a=11a2b 11a86-11a87=11a7c 11a88=11a7f 11a89=11a81",
        "11d46=11d26"]⟩,
    ⟨0x18, 0x18, none,
      [ "fb55=67b fb59=67e fb5d=680 fb61=67a fb65=67f fb69=679 fb6d=6a4 fb71=6a6 fb75=684",
        "fb79=683 fb7d=686 fb81=687 fb91=6a9 fb95=6af fb99=6b3 fb9d=6b1 fba3=6bb fba9=6c1",
        "fbad=6be fbd6=6ad fbe7=6d0 fbe9=649 fbff=6cc fcdf=626.645 fce0=626.647 fce1=628.645",
        "fce2=628.647 fce3=62a.645 fce4=62a.647 fce5=62b.645 fce6=62b.647 fce7=633.645",
        "fce8=633.647 fce9=634.645 fcea=634.647 fceb=643.644 fcec=643.645 fced=644.645",
        "fcee=646.645 fcef=646.647 fcf0=64a.645 fcf1=64a.647 fcf2=64e.651 fcf3=64f.651",
        "fcf4=650.651 fd34=633.62c fd35=633.62d fd36=633.62e fd37=634.62c fd38=634.62d",
        "fd39=634.62e fd3a=637.645 fd3b=638.645 fe71=64b fe77=64e fe79=64f fe7b=650 fe7d=651",
        "fe7f=652 fe8c=626 fe92=628 fe98=62a fe9c=62b fea0=62c fea4=62d fea8=62e feb4=633",
        "feb8=634 febc=635 fec0=636 fec4=637 fec8=638 fecc=639 fed0=63a fed4=641 fed8=642",
        "fedc=643 fee0=644 fee4=645 fee8=646 feec=647 fef4=64a"]⟩,
    ⟨0x12, 0x12, none,
      [ "ff61=3002 ff62-ff63=300c ff64=3001 ff65=30fb ff66=3092 ff70=30fc ff71=3042 ff72=3044",
        "ff73=3046 ff74=3048 ff75-ff76=304a ff77=304d ff78=304f ff79=3051 ff7a=3053 ff7b=3055",
        "ff7c=3057 ff7d=3059 ff7e=305b ff7f=305d ff80=305f ff81=3061 ff82=3064 ff83=3066",
        "ff84=3068 ff85-ff8a=306a ff8b=3072 ff8c=3075 ff8d=3078 ff8e=307b ff8f-ff93=307e",
        "ff94=3084 ff95=3086 ff96-ff9b=3088 ff9c=308f ff9d=3093 ff9e-ff9f=3099 ffa0=1160",
        "ffa1-ffa2=1100 ffa3=11aa ffa4=1102 ffa5-ffa6=11ac ffa7-ffa9=1103 ffaa-ffaf=11b0",
        "ffb0=111a ffb1-ffb3=1106 ffb4=1121 ffb5-ffbe=1109 ffc2-ffc7=1161 ffca-ffcf=1167",
        "ffd2-ffd7=116d ffda-ffdc=1173 ffe8=2502 ffe9-ffec=2190 ffed=25a0 ffee=25cb"]⟩,
    ⟨0x10, 0x10, none,
      [ "ff67=3042 ff68=3044 ff69=3046 ff6a=3048 ff6b=304a ff6c=3084 ff6d=3086 ff6e=3088",
        "ff6f=3064"]⟩,
    ⟨0x2, 0x8, some 0x119, ["2019=27 201d=22 301f=301d"]⟩,
    ⟨0x2, 0x8, some 0x11a, ["201a=27 201e=22"]⟩,
    ⟨0x2, 0x8, some 0x11b, ["201b=27 201f=22"]⟩,
    ⟨0x2, 0x8, some 0x11c, ["2e42=22"]⟩]

/-- A form of a text. -/
structure Form where
  kind : FormKind
  text : List Char

/-- The forms by their characters. -/
def forms : CharTable Form :=
  CharTable.ofList <| formKinds.flatMap fun kind =>
    (Run.pairs kind.lines).map fun (c, text) => (c, ⟨kind, text⟩)

/-- The form that a character is. -/
def form? (c : Char) : Option Form := if c.toNat < 0x80 then none else forms.get? c

end OperationLint.Collation
