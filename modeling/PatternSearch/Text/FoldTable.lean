/-
PatternSearch.Text.FoldTable — case folding in Unicode 16.0, written as text.

Characters that fold to one character are listed in runs: the ends of a run
in hexadecimal, a plus or a tilde and the offset forward or back, then a slash
and the step; a single character has neither second end nor step. Characters
that fold to two or three are listed under what they fold to, with points
between the numbers of one side.
-/
namespace PatternSearch.Text

/-- Foldings to one character, in increasing order. -/
def foldTable : List String :=
  ["41-5a+20/1 b5+307 c0-d6+20/1 d8-de+20/1 100-12e+1/2 132-136+1/2 139-147+1/2 14a-176+1/2 178~79",
   "179-17d+1/2 17f~10c 181+d2 182-184+1/2 186+ce 187+1 189-18a+cd/1 18b+1 18e+4f 18f+ca 190+cb",
   "191+1 193+cd 194+cf 196+d3 197+d1 198+1 19c+d3 19d+d5 19f+d6 1a0-1a4+1/2 1a6+da 1a7+1 1a9+da",
   "1ac+1 1ae+da 1af+1 1b1-1b2+d9/1 1b3-1b5+1/2 1b7+db 1b8+1 1bc+1 1c4+2 1c5+1 1c7+2 1c8+1 1ca+2",
   "1cb-1db+1/2 1de-1ee+1/2 1f1+2 1f2-1f4+1/2 1f6~61 1f7~38 1f8-21e+1/2 220~82 222-232+1/2",
   "23a+2a2b 23b+1 23d~a3 23e+2a28 241+1 243~c3 244+45 245+47 246-24e+1/2 345+74 370-372+1/2 376+1",
   "37f+74 386+26 388-38a+25/1 38c+40 38e-38f+3f/1 391-3a1+20/1 3a3-3ab+20/1 3c2+1 3cf+8 3d0~1e",
   "3d1~19 3d5~f 3d6~16 3d8-3ee+1/2 3f0~36 3f1~30 3f4~3c 3f5~40 3f7+1 3f9~7 3fa+1 3fd-3ff~82/1",
   "400-40f+50/1 410-42f+20/1 460-480+1/2 48a-4be+1/2 4c0+f 4c1-4cd+1/2 4d0-52e+1/2 531-556+30/1",
   "10a0-10c5+1c60/1 10c7+1c60 10cd+1c60 13f8-13fd~8/1 1c80~184e 1c81~184d 1c82~1844",
   "1c83-1c84~1842/1 1c85~1843 1c86~183c 1c87~1824 1c88+89c3 1c89+1 1c90-1cba~bc0/1",
   "1cbd-1cbf~bc0/1 1e00-1e94+1/2 1e9b~3a 1ea0-1efe+1/2 1f08-1f0f~8/1 1f18-1f1d~8/1 1f28-1f2f~8/1",
   "1f38-1f3f~8/1 1f48-1f4d~8/1 1f59-1f5f~8/2 1f68-1f6f~8/1 1fb8-1fb9~8/1 1fba-1fbb~4a/1 1fbe~1c05",
   "1fc8-1fcb~56/1 1fd8-1fd9~8/1 1fda-1fdb~64/1 1fe8-1fe9~8/1 1fea-1feb~70/1 1fec~7 1ff8-1ff9~80/1",
   "1ffa-1ffb~7e/1 2126~1d5d 212a~20bf 212b~2046 2132+1c 2160-216f+10/1 2183+1 24b6-24cf+1a/1",
   "2c00-2c2f+30/1 2c60+1 2c62~29f7 2c63~ee6 2c64~29e7 2c67-2c6b+1/2 2c6d~2a1c 2c6e~29fd 2c6f~2a1f",
   "2c70~2a1e 2c72+1 2c75+1 2c7e-2c7f~2a3f/1 2c80-2ce2+1/2 2ceb-2ced+1/2 2cf2+1 a640-a66c+1/2",
   "a680-a69a+1/2 a722-a72e+1/2 a732-a76e+1/2 a779-a77b+1/2 a77d~8a04 a77e-a786+1/2 a78b+1",
   "a78d~a528 a790-a792+1/2 a796-a7a8+1/2 a7aa~a544 a7ab~a54f a7ac~a54b a7ad~a541 a7ae~a544",
   "a7b0~a512 a7b1~a52a a7b2~a515 a7b3+3a0 a7b4-a7c2+1/2 a7c4~30 a7c5~a543 a7c6~8a38 a7c7-a7c9+1/2",
   "a7cb~a567 a7cc+1 a7d0+1 a7d6-a7da+1/2 a7dc~a641 a7f5+1 ab70-abbf~97d0/1 ff21-ff3a+20/1",
   "10400-10427+28/1 104b0-104d3+28/1 10570-1057a+27/1 1057c-1058a+27/1 1058c-10592+27/1",
   "10594-10595+27/1 10c80-10cb2+40/1 10d50-10d65+20/1 118a0-118bf+20/1 16e40-16e5f+20/1",
   "1e900-1e921+22/1"]

/-- Foldings to several characters. -/
def longFoldTable : List String :=
  ["73.73=df.1e9e 69.307=130 2bc.6e=149 6a.30c=1f0 3b9.308.301=390.1fd3 3c5.308.301=3b0.1fe3",
   "565.582=587 68.331=1e96 74.308=1e97 77.30a=1e98 79.30a=1e99 61.2be=1e9a 3c5.313=1f50",
   "3c5.313.300=1f52 3c5.313.301=1f54 3c5.313.342=1f56 1f00.3b9=1f80.1f88 1f01.3b9=1f81.1f89",
   "1f02.3b9=1f82.1f8a 1f03.3b9=1f83.1f8b 1f04.3b9=1f84.1f8c 1f05.3b9=1f85.1f8d 1f06.3b9=1f86.1f8e",
   "1f07.3b9=1f87.1f8f 1f20.3b9=1f90.1f98 1f21.3b9=1f91.1f99 1f22.3b9=1f92.1f9a 1f23.3b9=1f93.1f9b",
   "1f24.3b9=1f94.1f9c 1f25.3b9=1f95.1f9d 1f26.3b9=1f96.1f9e 1f27.3b9=1f97.1f9f 1f60.3b9=1fa0.1fa8",
   "1f61.3b9=1fa1.1fa9 1f62.3b9=1fa2.1faa 1f63.3b9=1fa3.1fab 1f64.3b9=1fa4.1fac 1f65.3b9=1fa5.1fad",
   "1f66.3b9=1fa6.1fae 1f67.3b9=1fa7.1faf 1f70.3b9=1fb2 3b1.3b9=1fb3.1fbc 3ac.3b9=1fb4",
   "3b1.342=1fb6 3b1.342.3b9=1fb7 1f74.3b9=1fc2 3b7.3b9=1fc3.1fcc 3ae.3b9=1fc4 3b7.342=1fc6",
   "3b7.342.3b9=1fc7 3b9.308.300=1fd2 3b9.342=1fd6 3b9.308.342=1fd7 3c5.308.300=1fe2 3c1.313=1fe4",
   "3c5.342=1fe6 3c5.308.342=1fe7 1f7c.3b9=1ff2 3c9.3b9=1ff3.1ffc 3ce.3b9=1ff4 3c9.342=1ff6",
   "3c9.342.3b9=1ff7 66.66=fb00 66.69=fb01 66.6c=fb02 66.66.69=fb03 66.66.6c=fb04 73.74=fb05.fb06",
   "574.576=fb13 574.565=fb14 574.56b=fb15 57e.576=fb16 574.56d=fb17"]

end PatternSearch.Text
