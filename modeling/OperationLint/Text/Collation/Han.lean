import OperationLint.Text.CharTable
import OperationLint.Text.Run

/-!
# The order of Han characters

By radical, then by the strokes besides it. The characters of the extension blocks are placed in
steps: a step takes its radical and strokes from its first character.
-/

namespace OperationLint.Collation

/-- Han characters in order. -/
def han : List String :=
  [ "4e00-4e06 20000-20020 4e07-4e0c 4e90 5344 4e0d-4e13 4e17 4e14-4e16 4e18-4e1d 3400 4e1e-4e22",
    "3401-3403 4e23-4e25 4e3d 20021-2003d 4e26-4e27 2003e-20067 221a1 4e28-4e2b 3404-341f",
    "4e2d-4e32 20068-20085 4e33-4e3c 4e3e-4e44 4e49 20086-20093 4e45-4e48 4e4a-4e4c 5c39",
    "4e4d-4e50 20094-200c9 4e51-4e5b 200ca-200ed 4e5c-4e60 4e63-4e78 200ee-2010b 4e79-4e7c",
    "3420-3421 4e7d-4e80 3422-3425 4e81-4e84 3426-342a 4e85 2010c-2010d 4e86 2010e-20117",
    "4e87-4e8a 20118-201a8 4e8b-4e8f 4e91-4ea7 342b-342c 4ea8-4eac 342d-342f 4ead-4eed 3430-3437",
    "201a9-201c0 4eee-4f2c 4f64 3438-3445 201c1-201f1 4f2d-4f63 4f65-4f68 3446-344b 201f2-20203",
    "4f69-4fad 344c-3463 20204-2025a 4fae-4fed 2025b-20273 4fee-503f 3465-3472 20274-202b6",
    "5040-507f 3464 202b7-20309 5080-50a9 3473-347c 2030a-20340 50aa-50cd 347d-3492 20341-2037d",
    "203b5 50ce-50f1 50f3-50f4 50f7 2037e-203b4 203b6-203c8 50f2 50f5-50f6 50f8-510f 3493-34a2",
    "203c9-203f4 5110-511e 512b 203f5-20412 511f-512a 512c 20413-20464 512d-5135 34a3-34a4 5136",
    "34a5-34a6 5137-513a 34a7-34ae 513b-513c 20465-20486 513d-5156 20487-2048d 5157-5159",
    "2048e-20490 515a-515b 20491-204a2 515c-5160 204a3-204d6 204d8-204fb 5161-5163 204fc-20546",
    "5164 204d7 5165-5168 6c3d 5169-5170 34b0-34b2 5171-5175 34b3-34bb 5176-5179 517b 517a",
    "517c-5181 34af 5182-518c 20547-2058d 518d-5195 34bc-34c0 6700 5196-5198 34c1-34c7 5199-51a7",
    "2058e-205a4 51a8-51aa 205a5-205b2 51ab-51b4 205b3-205c2 51b5-51bb 34c8-34de 51bc-51c0",
    "205c3-205c9 51c1-51c3 205ca-205de 51c4-51ce 205df-205ea 51cf-51d1 205eb-20610 51d2-51dc",
    "20611-20614 51dd-51de 20615-20618 51df 20619-2062f 51e0-51e4 20630-20655 51e5-51ef",
    "20656-20675 51f0-51f6 20676-2070d 51f7-522d 34df-34e3 522e-5242 34e4-34fa 2070e-20730",
    "5243-5267 20731-20778 5268 526a-5271 5276 20779-2082b 5269 5272-5275 34fb-34ff 5277-5284",
    "3500-3519 5285-5298 2082c-20872 5299-52bf 351a-351f 52c0-52d1 20873-208d4 52d2-52d6",
    "52d8-52da 3520-3521 52db-52ed 3522-3524 52ee-52f6 3525-352a 52f7-5309 208d5-20915 530a-530c",
    "20916-20922 530d-5310 5313 5311-5312 20923-20978 5314 20979-209e6 5315-5316 352b-352c",
    "5317-5319 352d-352f 531a-5325 3530 5326-532e 3531 532f 3532-3534 5330-5332 3535 5333-5337",
    "3536 5338-533b 3537 533c-5343 5345-5348 3539-353a 5349-534a 534c 534b 534d-5350 353b-353d",
    "5351-535a 3538 535b-5367 209e7-20a10 5368-536b 353e-3541 536c-536f 20a11-20a4f 5370-537d",
    "537f 537e 5380-538d 3542-3550 538e-5395 20a50-20ab3 5396-539f 8652 53a0-53a3 53a9 53a4-53a8",
    "53aa-53ab 53af 53ac-53ae 53b0 3551-3552 53b1-53b2 20ab4-20ac1 53b3 3553-3558 20ac2-20acc",
    "53b4 20acd-20b0c 53b5-53c6 20b0d-20b8e 53c7 3559-3560 3563-3565 20b8f-20ba7 53c8-53e2 58e1",
    "53e3-53fe 20ba8-20bbe 53ff-5417 3566-356c 20bbf-20bca 5418-545c 356d-3576 20bcb-20c0a",
    "545d-549d 3577-3583 20c0b-20c52 549e-54df 3584-3596 20c53-20cb4 54e0-5527 3597-35a0",
    "20cb5-20d27 5528-5558 555a-555e 5560-556a 556c-5579 35a1-35be 20d28-20dc7 5559 556b",
    "557a-558c 558e-55be 5645 35bf-35d1 20dc8-20e4b 558d 55bf-55f5 35d2-35f0 20e4c-20ed6",
    "55f6-561e 5621-5627 5651 5653 3561 20ed7-20f63 561f-5620 5628-5644 5646-5650 5652 5654",
    "5656-565d 5674 35f1-35fa 20f64-20fde 21014 565e-5673 5675-567c 35fb-3608 20fdf-21013",
    "21015-2104e 567d-5693 2104f-21095 5694-56a4 3609-3617 21096-210e3 56a5-56b0 210e4-2112e",
    "56b1-56b9 2112f-2113a 56ba-56c4 56cd 2113b-2117f 56c5-56cb 56ce 3618-3619 56cc 56cf-56d0",
    "361a-361f 56d1-56d3 21180-21186 56d4-56d5 21187-211d8 56d6-56fe 3620-3621 56ff-5700 3622",
    "211d9-2123b 5701-5706 3623-3625 5707-570b 570f 570c-570e 5710-5721 2123c-2124e 5722-5727",
    "3626-3628 5728-573a 2124f-2127b 573b-5760 3629-3630 2127c-212a7 5761-578a 3631-3635",
    "212a8-212e2 578b-57b5 57ce 3636-3646 212e3-212fd 57b6-57cd 57cf-57db 212fe-21335 57dc-57e9",
    "57eb-5815 3647-364d 21336-21374 57ea 5816-583c 583e-5842 5844-5848 364e-365e 21375-213c4",
    "583d 5843 5849-5871 365f-3664 213c5-213ec 5872-587f 5881-589b 3665-3679 213ed-21423 5880",
    "589c-58a7 58a9-58b9 21424-21489 58ba-58d7 367a-3680 2148a-214b5 58d8-58d9 214b6-214e7",
    "58da-58e0 58e2-58e5 214e8-214fc 58e6 214fd-21576 58e7-58e9 3681-3699 58ea-5900 21577-21581",
    "5901 21582-21595 5902-5911 5913 5912 5914-591e 21596-21609 591f-5949 594b-594d 2160a-21612",
    "594e-5956 369a-36a4 21613-2163d 594a 5957-595e 2163e-21660 595f-5968 21661-21691 5969-596f",
    "21692-216b7 5970-5988 36a5-36a9 216b8-216bf 5989-598c 598e-59ab 36aa-36af 216c0-216de",
    "59ac-59d7 36b0-36c2 216df-2170c 598d 59d8-59eb 59ed-5a03 5a05-5a08 36c3-36cd 2170d-21739",
    "59ec 5a09-5a2b 5a2d-5a34 5a3d 36ce-36e4 2173a-2176b 5a2c 5a35-5a3c 5a3e-5a76 36e5-36f4",
    "2176c-217aa 5a77-5a8f 5a91-5aaf 5acf 36f5-3707 217ab-217ee 5a90 5ab0-5ace 5ad0-5ad4",
    "3708-371b 217ef-2181f 5ad5-5af2 371c-3722 21820-21851 5af3-5b0f 3723-372a 21852-2189d",
    "5b10-5b22 5b34 372b-372f 2189e-218d0 5b23-5b33 5b35-5b37 218d1-218f9 5b38 5b3a-5b3d",
    "3730-3731 218fa-21902 5b39 5b3e-5b3f 3732-3735 21903-2190f 5b40-5b46 3736-3738 21910-2191b",
    "5b47-5b49 3739 2191c-21921 5b4a-5b4c 373a 21922-2193a 5b4d-5b4f 373b-373f 2193b-21943",
    "5b50-5b59 21944-21957 5b5a-5b67 3740-3742 21958-21969 5b68-5b6d 3743-3761 2196a-2197b",
    "5b6e-5b72 2197c-21982 5b73-5b74 21983-21995 5b75-5b77 21996-219da 5b78-5ba1 219db-219f2",
    "5ba2-5ba6 5ba8-5bab 219f3-21a2c 5ba7 5bac-5bc9 21a2d-21a44 5bca-5bd5 5bea 3762-3765",
    "21a45-21b43 5bd6-5bdd 3766-376e 5bde-5be9 5beb-5bee 376f-3796 5bef-5c02 5c06 5c03-5c05",
    "5c07-5c0e 21b44-21bc0 5c0f-5c22 21bc1-21c29 5c23-5c38 5c3a-5c3d 21c2a-21c6f 5c3e-5c58",
    "3797-379f 21c70-21ca1 5c59-5c61 21ca2-21d45 5c62-5c67 37a0-37b8 5c68-5c71 4e62 5c72-5c83",
    "21d46-21d8f 5c84-5c8c 5c8e-5c9c 5c8d 5c9d-5cc5 37b9-37f1 21d90-21db5 5cc6-5ce7 21db6-21dea",
    "5ce8-5d05 21deb-21e1b 5d06-5d30 21e1c-21e88 5d31-5d49 5d4b-5d5d 21e89-21ec7 5d4a 5d5e-5d76",
    "37f2-37fa 21ec8-21f0e 5d77-5d8e 37fb-380e 5d8f-5da5 380f-3818 21f0f-21f69 5da6-5dba",
    "5dbc-5dbf 3819-381f 21f6a-21f9d 5dbb 5dc0-5dc5 3820-3825 21f9e-21fe7 5dc6-5dcd 5dcf-5dd0",
    "3826-382a 5dce 5dd1-5dd5 5dd7 5dd6 5dd8 5dda 5dd9 5ddc 5ddb 5ddd 21fe8-22044 5dde-5de0",
    "5de2-5dee 382b-382c 5def 382d-382f 5df0-5df6 3830 5df7-5dfd 22045-2207d 5dfe-5e05 3832-3833",
    "5e06-5e08 3834-3836 5e09-5e10 3837-3860 5e11-5e1c 2207e-22099 5e1d-5e27 2209a-220c6",
    "5e28-5e31 220c7-220fb 221c3 5e32-5e3c 5e3e 3831 5e3d 5e3f-5e47 5e49 220fc-22129 5e48",
    "5e4a-5e4f 5e51-5e59 5e5b 2212a-2215a 5e5a 5e5c-5e65 5e69 3861 5e66-5e68 3862-3864",
    "2215b-22172 5e6a-5e6c 3865-389f 5e6d-5e70 22173-22179 5e71 2217a-221a0 221a2-221c2",
    "221c4-22207 5e72-5e79 4e61 5e7a-5e94 5e98 5e95-5e97 5e99-5ea6 22208-2227b 5ea7-5ebc 5ebe",
    "5ebd 5ebf-5ec3 5eca 5ec4-5ec9 5ecb-5ecc 2227c-22320 5ecd-5eed 9f90 5eee-5ef9 38a0-38c2",
    "5efa-5efc 22321-223bc 5efd-5f20 223bd-223cf 5f21-5f2a 223d0-223d6 5f2b-5f2f 223d7-223f9",
    "5f30-5f39 223fa-22464 5f3a-5f46 38c3-38cb 5f47-5f56 38cc-38d0 2248b 5f57-5f5a 22465-22470",
    "5f5b-5f5c 22471-2248a 2248c-22490 5f5d-5f68 22491-224af 5f69 5f6b-5f70 38d1-38f9 5f71",
    "224b0-224ec 5f72-5f8d 5f94 5f8e-5f93 5f95 224ed-22512 5f96-5f99 5f9b-5fa4 22513-2252f 5f9a",
    "5fa5-5fab 22530-22553 5fac-5fb1 5fb3-5fb4 22554-2258c 5fb2 5fb5-5fbe 2258d-225ae 5fbf-5fc6",
    "38fa-38ff 5fc7-5fca 225af-225bd 5fcb-5fdc 3900-3907 225be-2261a 5fdd-6006 3908-3913",
    "6007-603f 3914-391f 2261b-22667 6040-607d 3920-392f 22668-22679 607e-60af 3930-393e",
    "2267a-226f3 60b0-60ef 393f-3960 226f4-22729 60f0-6126 6168 3961-397f 2272a-227b3 6127-6151",
    "227b4-22802 6152-6167 6169-616c 616e-6188 3980-3988 22803-2285e 616d 6189-61b3 3989-3998",
    "2285f-228ac 61b4-61ba 61bc-61d4 3999-399a 228ad-228f6 61bb 61d5-61e8 399b-39a0 228f7-22925",
    "61e9-61f4 39a1-39a3 61f5-61fa 39a4-39b7 22926-2294e 61fb 2294f-22966 61fc-6202 22967-2297f",
    "6203-6204 22980-22992 6205-6213 22993-22a65 6214-621f 6226 39b8-39d0 6220-6225 6227-622f",
    "6231 6230 6232 6234 6233 6235-624e 22a66-22ace 6250-6256 624f 6257-625e 6260-626c 625f",
    "626d-6277 6279-62a5 39d1-39d3 6278 62a6-62e9 39d4-39e0 22acf-22ae5 62ea-6327 39e1-39f7",
    "22ae6-22b3e 6328-6364 39f8-39fa 22b3f-22bc9 6365-63b1 63b3-63bd 39fb-3a16 22bca-22c25 63b2",
    "63be-63c4 63c6-6405 6452 3a17-3a1f 22c26-22c61 6406-6430 6432-644a 3a20-3a2e 22c62-22cb6",
    "63c5 6431 644b-6451 6453-6455 6457-6484 6487 3a2f-3a4a 22cb7-22d43 6456 6485-6486 6488-64ba",
    "64c6 3a4b-3a51 22d44-22d8c 64bb-64c5 64c7-64de 3a52-3a5b 22d8d-22ded 64df-64e4 64e6-64f1",
    "3a5c-3a60 22dee-22e0c 64e5 64f2-6506 3a61-3a6f 22e0d-22e35 6507-6510 6512 22e36-22e77",
    "6513-651a 3a70-3a76 6511 651b-651d 22e78-22e8a 651e-6524 6526-6527 22e8b-22eb2 6525",
    "6528-652b 3a77-3a80 652c-652e 22eb3-22eee 652f-653c 22eef-22f73 653d-653f 3a81-3a82",
    "6540-6545 3a83-3a86 6546-654c 3a87-3a89 555f 654d-655b 655d 3a8a-3a8e 655c 655e-656a 656d",
    "3a8f-3aaa 22f74-22fcb 656b-656c 656e-657b 22fcc-22fe2 657c-657f 22fe3-23032 6580-6583 8d01",
    "3aab-3ab7 6584-6586 23033-23043 6587-6589 23044-23065 658a-658b 658d-658f 658c 6590-6592",
    "295b0 6593 23066-2307c 6594-659d 3ab8-3abb 2307d-2308d 659e-65a3 2308e-230b6 65a4-65ab",
    "3abc-3abf 65ac-65af 65b1 3ac0-3ac5 65b0 65b2 230b7-230bb 65b3 230bc-230d9 65b4-65bc",
    "230da-23102 65bd-65c0 3ac6-3ac8 65c1-65c6 65ca 3ac9-3aca 65c7-65c9 65cb-65cf 3acb-3add",
    "65d0-65d1 23103-2313c 65d2-65e7 2313d-2317c 65e8-663f 3ade-3aef 2317d-231a3 6640-6656",
    "231a4-231b2 231b4-231c7 231ca-231f6 52d7 6657-6669 3af0-3afa 666a-6683 6691 3afb-3b00",
    "231f7-23224 6684-6690 6692-6699 3b01-3b0c 23225-23261 669a-66a8 3b0d-3b10 23262-23280",
    "66a9-66b7 3b11-3b16 23281-23288 2328a-232aa 66b8-66cd 3b17-3b1f 23289 232ab-232d1 66ce-66d7",
    "66da 3b20-3b22 232d2-232df 66d8-66d9 66db-66dc 3b23-3b28 232e0-232ff 66dd-66e2 3b29-3b2a",
    "66e3-66e8 3b2b 23300-23309 66e9 2330a-2331e 3b2c-3b2d 66ea-66ec 3b2e 66ed-66ef 3b2f",
    "2331f-233b3 66f0-66f3 3b30 66f4-66f8 66fa-66fb 66fd 231b3 231c8-231c9 66f9 66fc 66fe-66ff",
    "6701-6706 3b31-3b32 6707-670d 3b33 670e-6715 6717 3b34-3b35 6716 6718-671b 3b36-3b37",
    "671c-671f 3b38 6720-6722 3b3a-3b3b 81a4 3b3c-3b3e 6723-6725 3b3f 6726-6729 233b4-233cb",
    "672a-6743 3b41 6744-6769 6781 3b42-3b46 233cc-233dd 676a-6780 6782-67ad 3b47-3b50",
    "233de-2343e 67ae-6811 6852 3b51-3b57 6812-6851 6853-686a 3b58-3b67 2343f-234e4 686b-68c2",
    "3b68-3b75 3b77 68c3-692e 3b76 3b78-3b95 234e5-23559 692f-6989 698b-698c 6994 6998 3b96-3ba0",
    "3ba2-3bbb 2355a-235cc 698a 698d-6993 6995-6997 6999-69e1 69e9 6a2e 3bbc-3bbd 235cd-23619",
    "69e2-69e8 69ea-6a2d 6a2f-6a31 6a65 6a74 3bbe-3bd6 2361a-236a5 6a32-6a64 6a66-6a73 6a75-6a7c",
    "3bd7-3beb 236a6-23702 6a7d-6aaa 3b40 3bec-3bff 23703-23765 6aab-6aca 23766-237a1 6acb-6ae6",
    "6aeb 3c00-3c08 237a2-237d4 6ae7-6aea 6aec-6af6 3c09-3c14 237d5-23839 6af8-6b05 6b0c",
    "3c15-3c17 6af7 6b06-6b0b 6b0d-6b0e 3c18-3c1f 6b0f-6b12 2383a-239c1 6b13-6b1b 6b1d 6b1c",
    "6b1e-6b22 6b24 6b23 6b25-6b27 3c20-3c25 6b28-6b2a 3c26-3c2e 6b2b-6b38 3c2f-3c3b 6b39-6b48",
    "3c3c-3c45 6b49-6b5d 3c46-3c4f 6b5e-6b65 3c50-3c53 6b66-6b6b 3c54-3c60 6b6c-6b6f 6b71-6b73",
    "6b70 6b74-6b7c 239c2-23aa6 6b7d-6b8b 3c61 6b8c-6b93 3c62-3c63 6b94-6b9a 3c64-3c6d 6b9b-6b9c",
    "3c6e-3c72 6b9d-6ba6 3c73-3c8a 6ba7-6bc2 23aa7-23ada 6bc3-6bc9 23adb-23aed 6bca-6bd0",
    "23aee-23af9 6bd1-6bd3 23afa-23b59 6bd4-6bd8 3c8b-3cca 6bd9-6be1 23b5a-23c62 6be2-6c2b",
    "23c63-23c98 6c2c-6c35 6c3a 6c36-6c39 6c3b-6c3c 6c3e-6c41 6c43-6c49 6c42 6c4a-6c64 6c77",
    "6c65-6c76 6c78-6c96 6c98-6caa 23c99-23cb4 6c97 6cab-6cd9 6cdb-6cef 6cf1-6cf4 6cf6-6cfe",
    "3ccb-3cd5 23cb5-23cfb 6cda 6cf0 6cff-6d0c 6d0e-6d15 6d17-6d55 3cd6-3cea 23cfc-23d3f 6d0d",
    "6d16 6d56-6d98 6d9a-6da9 3ceb-3cff 23d40-23d7d 6d99 6daa-6e02 6e04-6e17 6e1a 6e74 3d00-3d12",
    "23d7e-23e10 6e03 6e18-6e19 6e1b-6e73 6e75-6e8c 6ecb 6ede 3d13-3d25 23e11-23e87 6e8d-6eca",
    "6ecd-6ed4 6ed6-6ed9 6edb-6edd 6edf-6eea 6f13 3d26-3d3c 23e88-23ed6 6ecc 6ed5 6eda 6eeb-6f0a",
    "6f0c-6f12 6f14-6f3c 6f3e-6f4d 3d3d-3d4b 23ed7-23f49 6f0b 6f3d 6f4e-6f7f 6f81-6f98 6f9a-6f9d",
    "6fd0 3d4c-3d5e 23f4a-23fbf 23fc1-23fc4 6f99 6f9e-6fcf 6fd1-6fd3 6fd6 3d5f-3d6e 23fc5-24038",
    "6f80 6fd4-6fd5 6fd7-6ff2 6ff4-6ff8 3d6f-3d7c 23fc0 24039-24084 6ff9-7014 3d7d-3d84",
    "24085-240c8 6ff3 7015-702e 3d85-3d8e 240c9-24103 702f-7041 3d8f-3da4 24104-2410e 7042-704d",
    "704f-7050 2410f-2413e 7051-7058 2413f-2414d 7059-705c 2414e-24176 705d-7063 704e 7064-7068",
    "24177-241a2 7069-7080 7087 3da5-3dac 7081-7086 7088-709e 241a3-241cc 709f-70c3 3dad-3db3",
    "241cd-241fb 70c4-70ee 3db4-3dbe 241fc-2424a 70ef-7113 7115-7118 3dbf-3dc5 2424b-24275 7114",
    "7119-7140 716e 3dc6-3dd2 24276-242c0 7141-716d 716f-7178 717a 3ba1 3dd3-3de6 242c1-2430c",
    "7179 717b-7199 71a6 84b8 3de7-3dea 2430d-24361 719a-71a5 71a7-71b5 9ed9 3deb-3df2",
    "24362-243bc 71b6-71de 3df3-3dff 243bd-243f7 71df-71f7 3e00-3e03 243f8-24434 71f8-7203",
    "3e04-3e05 24435-24459 269a8 7204-720a 720c-720e 7215 3e06-3e09 2445a-24472 720b 720f-7214",
    "7216-7218 3e0a-3e0c 24473-244b8 7219-721b 3e0d-3e1f 244b9-244bb 721c-7222 244bc-24504",
    "7223-7230 24505-24520 7231-7232 24521-24577 7233 5655 7234-723e 4e2c 723f-7242 24578-245c7",
    "3e20-3e21 7243-724d 245c8-24617 724e-7254 3e22-3e25 7255-7259 3e26-3e2e 725a-7264",
    "24618-24629 7265-726c 3e2f-3e39 2462a-24664 726d-727f 7281 3e3a-3e42 24665-24673 7280",
    "7282-728b 3e43-3e47 24674-24696 728c-7291 3e48-3e54 24697-246d3 7292-729b 246d4-24705",
    "729c-72a0 3e55-3e61 72a1-72a8 24706-24724 72a9-72b8 24725-2472e 72b9-72c8 2472f-2478e",
    "72c9-72de 3e62-3e73 72df-72f2 2478f-247df 72f3-7303 3e74-3ea7 7304-7321 732a-732b 7322-7329",
    "732c-7339 7341 7353 247e0-24811 733a-7340 7342-734a 24812-24881 734c-7352 7354-7355 734b",
    "7356-7364 24882-248e8 7365-738b 248e9-248ef 738c-7391 3ea8-3eac 7392-739b 3ead-3eb0",
    "248f0-248fa 739c-73b1 248fb-24915 73b2-73d1 3eb1-3ebe 24916-2493d 73d2-73f2 7409 3ebf-3ec9",
    "2493e-24961 73f3-7408 740a-7413 3eca-3ed6 3ed8-3edd 24962-2497a 7414-741d 741f-743c 3ed7",
    "2497b-249b6 741e 743d-745f 3ede-3ee6 249b7-249eb 7460-7478 3ee7-3eea 249ec-24a14 7479-748c",
    "748e 7493 3eeb-3ef9 24a15-24a41 748d 748f-7492 7494-74a1 74a3-74a4 3efa-3efe 24a42-24a70",
    "74a2 74a5-74b4 3eff-3f03 24a71-24a8b 74b5-74b9 74bb-74c2 24a8c-24ab0 74c3-74cb 3f04-3f0d",
    "24ab1-24abf 74ba 74cc-74d2 24ac0-24ac9 74d3-74d6 24aca-24ade 74d7-74da 24adf-24ae1 74db",
    "24ae2-24b6d 74dc-74e0 3f0e-3f25 74e1-74f8 3f26-3f3e 74f9-74ff 7501 7500 7502-7506",
    "24b6e-24bf4 7507-7509 24bf5-24c08 750a-7512 3f3f-3f52 3f54 7513-752f 24c09-24c9d 7530-753a",
    "753c 3f55-3f57 753b 753d-7553 3f58-3f62 7554-755f 7561-7567 7569 7570 756a-756f 7572-7574",
    "7571 7575-757a 3f63-3f7b 24c9e-24cc8 757b-757f 3f53 7580-7582 24cc9-24cd8 7583-7584",
    "24cd9-24d05 7585-758a 24d06-24d12 758b 24d13-24db7 758c-75af 75ba 3f7c-3f92 75b0-75b9",
    "75bb-75eb 3f93-3fb6 24db8-24de9 75ec-7606 24dea-24e3a 7607-7618 761f 7627 7619-761e",
    "7620-7626 7628-762b 3fb7-3fd6 24e3b-24ea4 762c-763f 764a 7640-7649 764b-764e 24ea5-24f0d",
    "764f-7661 7663-7664 7662 7665-766b 3fd7-3fdb 766c-766e 24f0e-24f5b 766f-7674 3fdc-3fe4",
    "7675-7688 7560 7689-768d 24f5c-24f81 768e-7699 24f82-24f96 769a-769e 3fe5-3fec 24f97-24fa8",
    "769f-76a8 24fa9-24fb7 76a9 2502c 76aa-76ac 24fb8-24fc1 76ad 24fc2-2502b 2502d-25051",
    "76ae-76b1 3fed-3ff8 76b2-76bd 3ff9 76be 3ffa-3fff 76bf-76d1 4000 25052-2509c 76d2-76d8 76db",
    "4001-4002 76d9-76da 76dc 4003 76dd-76df 4004-4008 76e0-76e7 2509d-2512a 76e8-76ea 4009-401c",
    "76eb-770d 401d-4025 2512b-25147 770e-772c 773f 4026-4038 25148-2517c 772d-773e 7741",
    "2517d-251cc 7740 7742-7751 4039-4044 7752-7760 7762-776d 4045-4052 251cd-2521f 7761",
    "776e-7786 4053-4056 25220-2524f 7787-7793 4057-4061 25250-25298 7794-77a3 4062-406e",
    "25299-252c6 77a4-77b7 406f-4099 252c7-252d7 77b8-77c2 252d8-2530d 77c3-77ca 2530e-25418",
    "77cb-77d5 77d7 77d6 77d8-77f6 25419-25424 77f7-7801 25425-2542e 6cf5 7802-781c 409a-40a7",
    "2542f-25445 781d-7841 40a8-40ba 25446-25530 7842-787d 787f-789c 78b0 40bb-40c7 787e",
    "789d-78af 78b1-78b9 78c1 40c8-40d7 78ba-78c0 78c2-78d9 78dc 78e4 25531-2555a 78da-78db",
    "78dd-78e3 78e5-78ee 40d8-40de 2555b-25580 78ef-7905 40df-40f9 25581-255b8 7906-7921",
    "255b9-255d4 7922-7934 255d5-255df 7935 255e0-25604 7936-7938 40fa-40ff 7939-793b",
    "25605-25634 793c-794e 89c6 4100-4102 25635-25650 794f-7962 4103 25651-25682 2573d 7963-796f",
    "8996 4104-410d 25683-25694 7970-7978 7984 25695-256e2 7979-7983 7985-7986 410e-411f",
    "7987-79a3 256e3-256f5 79a4-79a9 256f6-25705 79aa-79ab 25706-2571c 79ac-79af 4120-4125",
    "79b0-79b1 2571d-25724 79b2 25725-2573c 2573e-25771 79b3-79bd 842c 79be-79c3 4126-4131",
    "79c4-79d7 4132-413a 25772-257c6 79d8-79fe 7a06 413b-4166 79ff-7a05 7a07-7a0e 257c7-257de",
    "7a0f-7a25 257df-25856 7a26-7a33 4167-416b 7a34-7a43 416c-417e 25857-2585c 7a44-7a48",
    "7a4a-7a52 2585d-258c7 7a49 7a53-7a5e 417f-418f 7a5f-7a63 258c8-258e0 7a64-7a6b 258e1-25902",
    "7a6c-7a6f 25903-25945 7a70-7a71 7a73 7a72 4190-4191 7a74-7a7b 4192-4194 7a7c-7a83 4195-41b1",
    "25946-25955 7a84-7a8e 25956-259ab 7a8f-7aa7 259ac-259cb 7aa8-7aad 259cc-25a94 7aae-7abd",
    "41b2-41b8 7abe-7ac2 41b9-41c3 7ac4-7ac7 7ac3 7ac8-7acf 41c4-41c9 7ad0-7ade 41ca-41ce",
    "7ae1-7aeb 41cf-41d6 25a95-25a9b 7aec-7aed 7aef-7af0 25a9c-25aad 7aee 7af1 25aae 7af2-7af4",
    "25aaf-25ae8 7af5-7b03 25ae9-25b73 7b05-7b15 41d7-41ec 7b04 7b16-7b5d 41ed-41f7 7b5e-7b80",
    "7bc0 41f8-4200 25b74-25bb2 7b81-7bab 4201-420d 25bb3-25be3 7bac-7bbf 7bc1-7bc8 7bca-7bd3",
    "420e-4229 25be4-25c20 7bc9 7bd4-7bef 7c11 7c15 422a-423a 25c21-25c90 7bf0-7c10 7c12-7c14",
    "7c16-7c17 423b-424d 25c91-25cc0 7c18-7c32 424e 4250-425f 25cc1-25d2f 7c33-7c42 424f",
    "4260-4269 25d30-25e0d 7c43-7c4f 7c55-7c56 7c50-7c54 426a-4273 7c57-7c68 4274-4275 7c6a",
    "4276-4279 7c69 7c6b-7c70 25e0e-25e48 7c71-7c76 5a04 7c77-7c82 427a-4282 7c83-7c91 7568",
    "7c92-7c9d 7ca3 25e49-25e80 7c9e-7ca2 7ca4-7cad 4283-428b 7cae-7cb5 7cc0 428c-4293",
    "25e81-25ea5 7cb6-7cbf 7cc1 25ea6-25ed6 7cc2-7cce 4294-42a1 25ed7-25f19 7ccf-7cd8 4a00",
    "7cd9-7ce2 7ce8 42a2-42a5 7ce3-7ce7 42a6-42ad 25f1a-25f4a 7ce9-7ced 25f4b-25fe0 7cee-7cf0",
    "42ae-42b4 7cf2 7cf1 7cf4-7cf6 7cf3 7cf7-7cf9 7e9f 7cfa-7cff 42b5 7ea0 7d00-7d09 42b6-42bb",
    "7ea1-7eab 7eb6 7d0a-7d27 42bc-42e7 7eac-7eb5 7eb7-7ebe 7d28-7d4c 25fe1-26028 7ebf-7ed0",
    "7d4d-7d5a 7d5c-7d77 7ed1-7edf 7d5b 7d78-7d9b 7dd0 26029-26047 7ee0-7ee8 7d9c-7dcf 7dd1-7dd2",
    "7dd4-7dd5 42e8-42f3 26048-26082 7ee9-7f01 7dd3 7dd6-7e07 42f4-4317 433b 26083-26101",
    "7f02-7f18 7e08-7e28 7f19-7f24 7e29-7e47 7e49-7e4a 7e4c-7e4d 26102-26158 7f25-7f2b 7e4e-7e65",
    "7e67 7e71 4318-431f 433e 26159-261ac 7f2c-7f2f 7e4b 7e66 7e68-7e70 7e72-7e7a 4320-4325",
    "7f30-7f34 7e48 7e7b-7e83 4326-432a 261ad-261dc 7e84-7e92 432b-433a 433c-433d 433f-4341",
    "261dd-26257 7f35 7e93-7e9e 7f36-7f38 4342 7f39-7f3a 7f3c 4343 7f3b 7f3d 4344-436d 7f3e-7f49",
    "26258-26260 7f4a-7f4f 26261-26269 7f50-7f53 2626a-262cf 7f54-7f74 262d0-26334 7f75-7f86",
    "26335-2634a 7f87-7f8a 2634b-26350 7f8b-7f8f 7f91 26351-263bd 7f90 7f92-7f94 7f96-7f99 7f95",
    "7f9a-7fa2 436e-4396 7fa3-7fb2 263be-263f4 7fb3-7fbf 263f5-26401 7fc0-7fc6 26402-26449",
    "7fc7-7fe4 2644a-26468 7fe5-7fed 26469-26483 7fee-7ff6 7ffc 26484-2648c 7ff7-7ffb 4397-43ab",
    "2648d-26511 7ffd-8027 43ac-43b9 8028-802a 26512-26571 802b-8054 8060 26572-2659f 8055-805f",
    "8061-8063 43ba-43c0 265a0-265ac 8064-806b 265ad-265be 806c-806d 43c1-43d8 265bf-26611",
    "806e-8080 26612-26625 8083 8081-8082 8084-8088 26626-266ae 8089-80c1 43d9-43de 80c2-80ec",
    "8109 43df-43ec 80ed-8108 810a-8114 43ed-43f1 266af-266d9 8115-8138 43f2-43ff 266da-26715",
    "2690e 8139-815a 3b39 4400-4412 26716-26798 5e50 815b-817e 4413-441f 817f-8191 4420-442c",
    "26799-2681b 8192-81a3 81a5 442d-443a 81a6-81b6 443b-4442 2681c-26845 2686e 81b7-81cc",
    "26846-2686d 2686f-26887 81cd-81d3 4443-4445 26888-26889 81d4-81d5 81d7-81d8 4446-4464",
    "2688a-268c6 81d6 81d9-81e2 268c7-2690d 2690f-26910 81e3-81ed 26939 81ee-81f0 26911-26925",
    "81f1-81f2 26926-26938 2693a-26950 81f3-81fc 26951-269a7 269a9-269b4 269b6-269f1 81fd-8205",
    "8207-8208 8206 8209 269f2-269f9 820a-820b 269b5 269fa-26a2c 820c-8231 4465-4479 8232-823b",
    "26a2d-26a33 823c-823f 26a34-26a41 8240-8249 26a42-26a50 824a-824d 26a51-26b04 824e-8254",
    "447a-448e 4490-449e 8255-8293 8295-8297 26b05-26b12 8298-82ba 82bc-82be 82c0-82cf 833e",
    "26b13-26b4f 8294 82bb 82bf 82d0-8315 449f-44c4 26b50-26b74 8316-831c 831e-8322 8324-833a",
    "833c-833d 833f-8345 8347-8352 8354-836f 26b75-26bbf 831d 8323 833b 8346 8353 8370-83ac",
    "83ae-83ba 83bc-83bd 26bc0-26c3f 83ad 83bb 83be-8427 8457 44c5-44dc 26c40-26cc2 8428-842b",
    "842d-8456 8458-8489 848b-848f 26cc3-26d73 848a 8490-84b7 84b9-84dd 84df-84e4 84e6 44dd-44ff",
    "26d74-26dff 84e5 84e7-853c 26e00-26e98 84de 853d-8575 4500-452d 26e99-26f72 8576-85a8",
    "85aa-85ac 85ae 8624 4552 4554-4555 4557 455c 26f73-26fbd 85a9 85ad 85af-85d4 448f 452e-4551",
    "4553 4556 4558-455b 455d-4566 26fbe-2704a 85d5-85f6 2704b-27087 85f7-8611 8613-861a",
    "861c-8623 27088-270cc 8612 861b 8625-8630 4567-4576 270cd-2710c 8631-8637 4577-4584",
    "2710d-27163 8638-8643 8645 27164-27174 8646-8649 8644 864a 27175-271cc 864b-864c 4585-459a",
    "864d-8651 8653-8654 5f6a 8655-865b 865d 865c 865e-8661 271cd-2721a 8662-8669 459b-45ac",
    "2721b-2727f 866a-8672 275e0 8673-8687 8689-86aa 86ac 86ab 86ad-86cf 27280-272b1 8688",
    "86d0-86d5 86d7-86f4 45ad-45dc 272b2-272e5 86d6 86f5-8717 872b 8746 272e6-27399 8718-872a",
    "872c-8745 8747-874b 8755 874c-8754 8756-8778 877a-8780 87e1 2739a-27421 8779 8781-87a9",
    "45dd-45e8 87aa-87d2 87d7 45e9-45ff 27422-2744f 87d3-87d4 87d6 87d8-87e0 87e2-87f5 8801 880e",
    "27450-27573 87d5 87f6-8800 8802-880d 880f-8819 4600-4601 881a-8824 882b 4602-4605 8825-882a",
    "882c 8834 4606-460e 882d-8833 8835-883b 27574-275a2 883c-883f 275a3-275df 275e1-275e3",
    "8840-8842 460f-4614 8843-884e 275e4-275fc 884f 4615-4616 8850-885d 275fd 885e-8861",
    "4617-4625 275fe-27606 8862-8864 27607-27631 8865-886c 27632-27654 886d-8887 27655-27693",
    "8888-88ae 88b0 4626-463a 88af 88b1-88c9 88d7 27694-2770e 88ca-88d6 88d8-8904 463b-464e",
    "8905-891d 2770f-27734 891e-8934 464f-4679 27735-2775d 8935-8951 8953-8954 8952 8955",
    "2775e-277cb 8956-8977 277cc-27857 8978-898b 89c1 898c 89c2 898d-898e 89c3 898f-8994 8999",
    "467a-467f 89c4-89c5 8995 8997-8998 899a 89c7-89c9 899b-899c 4680-468c 89ca 899d-89a1 89cb",
    "89a2-89a5 27858-2786f 89cc-89cd 89a6-89aa 27870-2789c 89ce 89ab-89af 89cf 89b0-89b3",
    "468d-46bb 89d0-89d1 89b4-89bf 2789d-278b1 89c0 89d2 278b2-278c7 89d3-89d9 278c8-27923",
    "89da-89f3 27924-27966 89f4 9d64 89f5-8a01 8ba0 8a02-8a08 8ba1-8ba5 8a09-8a1a 27967-27979",
    "8ba6-8bb1 8a1b-8a33 46bc-46ce 2797a-2799f 8bb2-8bc0 8a34-8a60 46cf-46f4 279a0-279dc",
    "8bc1-8bd2 8a61-8a8a 8aa0 279dd-279fc 8bd3-8be9 8a8b-8a9f 8aa1-8aae 279fd-27a3d 8bea-8bf6",
    "8aaf-8ada 8ae9 46f5-46ff 27a3e-27a78 8bf7-8c0a 8adb-8ae8 8aea-8b03 27a79-27abc 8c0b-8c1e",
    "8b04-8b22 4700-4712 27abd-27af3 8c1f-8c27 8b23-8b3e 27af4-27b05 8c28-8c2c 8b3f-8b44",
    "8b46-8b4c 8b4e-8b5c 27b06-27b37 8c2d-8c32 8b4d 8b5d-8b72 4713-471f 27b38-27b47 8c33-8c35",
    "8b45 8b73-8b7d 27b48-27bf3 8b7e-8b86 4720-4725 8b87-8b96 8c36 8b97-8b9f 8c37-8c41 4726-4745",
    "8c42-8c4e 27bf4-27c11 8c4f-8c51 27c12-27d2e 8c52-8c5d 4746-4747 8c5e-8c61 4748-474d",
    "8c62-8c6a 8c6c 8c6b 8c6d-8c6e 474e-477b 8c6f-8c75 8c77 8c76 8c78-8c9d 8d1d 8c9e-8ca0",
    "8d1e-8d20 8ca1-8ca4 27d2f-27d52 8d21-8d22 8ca5-8cae 8d23-8d2f 8caf-8cc1 27d53-27d65",
    "8d30-8d3b 8cc2-8cce 27d66-27d8e 8d3c-8d46 8ccf-8cd8 3562 27d8f-27dbc 8d47-8d4a 8cd9-8ced",
    "477c-4797 8d4b-8d55 8cee-8cf5 27dbd-27ddb 8d56-8d57 8cf6-8cfd 27ddc-27e4c 8d58-8d5b",
    "8cfe-8d00 8d02-8d05 8d5c 8d06-8d0c 8d5d-8d60 8d0d-8d0f 8d61-8d62 8d10-8d1b 8d63 8d1c",
    "27e4d-27ff8 8d64-8d6b 8d6d 8d6c 8d6e-8d6f 8d71 8d70 8d72-8d78 4798-479a 8d79-8d7f 479b-47a0",
    "8d80-8d8b 47a1-47a5 8d8c-8d94 47a6-47b5 8d95-8da4 47b6-47d4 8da5-8db8 47d5-47ec 8db9-8dbb",
    "8dbd-8dde 8df5 47ed-47f3 27ff9-2801d 8dbc 8ddf-8df4 8df6-8dfb 2801e-28047 8dfc-8e0e",
    "47f4-47ff 28048-28082 8e0f-8e2a 8e2c-8e2f 8e3a 4800-481f 28083-280bc 8e2b 8e30-8e39",
    "8e3b-8e45 280bd-280e7 8e46-8e53 280e8-2812d 8e54-8e67 8e6e 8e80 4820-4825 2812e-2814e",
    "8e68-8e6d 8e6f-8e7f 4826-4836 2814f-28188 8e81-8e89 28189-281ae 8e8a-8e8f 281af-28206",
    "8e90-8e97 8e9a 8e98-8e99 8e9b-8ea7 8ea9-8eaa 8ea8 28207-28217 8eab-8eaf 28218-28255",
    "8eb0-8eb2 4837-4845 8eb3-8ebc 28256-2827b 8ebd-8ec1 2827c-2829a 8ec2-8ec7 2829b-282cc",
    "8ec8-8eca 8f66 8ecb 8f67 8ecc-8ecd 8f68 8ece-8ed5 8f69-8f6b 8ed6-8ee3 4846-4851 282cd-282e1",
    "8f6c-8f70 8ee4-8eec 8eee-8efd 4852-485c 282e2-28305 8f71-8f7b 8eed 8efe-8f0c 8f7c-8f83",
    "8f0d-8f15 28306-2832e 8f84-8f86 8f16-8f2c 485d-4870 2832f-28364 8f87-8f8e 8f2d-8f3c",
    "28365-2836c 8f8f-8f94 8f3d-8f45 2836d-28389 8f95-8f97 8f46-8f4c 4871-489a 2838a-28411 8f98",
    "8f4d-8f54 8f99-8f9a 8f55-8f65 8f9b-8f9d 28412-28467 8f9e-8fbd 5de1 8fbe-8fc9 28468-28481",
    "8fca-8fdf 8fec 28482-28500 8fe0-8feb 8fed-9027 489b-48ac 28501-2853b 9028-903b 2853c-2856b",
    "903c-9057 2856c-285e7 9058-9077 48ad 9078-9086 48ae-48cf 285e8-2860a 9087-9089 2860b-2863a",
    "908a-908c 2863b-286a9 908d-90aa 90ac 90f5 286aa-286bb 90ad-90bb 286bc-286d7 90bc-90cb",
    "90cd-90d5 286d8-2870e 90d6-90e7 90f6 90ab 90e8-90f4 90f7-90fd 48d0-48dc 2870f-28803",
    "90fe-910a 912c 90cc 910b-9127 9129-912b 912d-9132 48dd-48ec 9133-9139 9128 913a-915e",
    "48ed-48f2 28804-2882a 915f-9165 48f3-48f9 9166-9171 2882b-28932 9172-917f 48fa-48ff",
    "9180-9197 4900-4910 9198-91a4 28933-28947 91a5-91b1 4911-491d 91b2-91c0 91c2 91c1 91c3-91d2",
    "9485 91d3-91d4 9486-9487 91d5-91e2 9488-948c 91e3-91fc 28948-28955 948d-9497 91fd-922d",
    "491e-4923 28956-28967 9498-94af 922e-9274 928f 28968-28988 94b0-94ce 9275-927b 927d-928e",
    "9290-92b1 4924-492c 28989-289b7 94cf-94f7 92b2-92f6 492d-4934 289b8-289e6 94f8-9515 927c",
    "92f7-9327 9329-9346 9348 4935-493b 289e7-28a31 9516-9531 9328 9347 9349-9387 493c-493d",
    "28a32-28a99 9532-9545 9388-93a8 93aa-93bf 493e-4948 28a9a-28add 9546-9555 93a9 93c0-93f2",
    "93f9 4949-4964 28ade-28b12 9556-9560 93f3 93f5-93f8 93fa-9428 28b13-28b62 9561-956b 93f4",
    "9429-9441 4965-4969 28b63-28b98 956c-9571 9442-9454 9467 496a-4971 28b99-28bc1 9572",
    "9455-9466 4972-4978 28bc2-28be6 9573-9574 9468-946c 28be7-28bfe 946d-9473 28bff-28c08",
    "9575-9576 9474-947a 28c09-28c22 947b-947e 28c23-28c2a 947f-9482 28c2b-28c38 9483-9484",
    "4979-4988 28c39-28cc9 9577-9578 957f 9579-957e 28e0f 9580 95e8 9581-9582 95e9 9583-9585",
    "28cca-28cd1 95ea 9586-958a 28cd2-28d33 95eb-95ef 958b-9597 95f0-95f7 9598-95a0 4989-49a0",
    "95f8-95f9 95a1-95aa 95fa-9602 95ab-95b4 28d34-28d98 9603-9606 95b5-95b6 95b8-95c2 49a1-49de",
    "9607-9610 95b7 95c3-95cf 9611-9615 95d0-95d8 28d99-28db8 9616-9619 95d9-95dd 961a 95de-95e1",
    "28db9-28e0e 28e10-28e35 95e2-95e6 961b 95e7 961c-9636 28e36-28e64 9637-9655 28e65-28e96",
    "9656-9659 965b-9669 965a 966a-967c 28e97-28ed8 967d-9690 28ed9-28fc4 9691-9698 49df-49e4",
    "9699-96a5 49e5-49e6 96a6-96ab 49e7-49ff 96ac-96d2 28fc5-29087 96d3-96d6 4a01-4a02 96d7-96e0",
    "96e2 4a03 96e1 96e3 4a04-4a0e 96e4-96eb 291d5 291eb 96ec-96f3 29088-29092 96f4-96fe",
    "29093-290ae 96ff-9701 4a0f-4a1c 290af-290bf 9702-970a 290c0-290e3 970b-9717 4a1d-4a23",
    "290e4-2910c 9718-9720 4a24-4a25 2910d-2913b 9721-9725 4a26-4a34 9726-972d 2913c-2915d",
    "972e-9734 2915e-2919b 9735-9740 2919c-291a7 9741 4a35-4a49 291a8-291d4 291d6-291ea",
    "291ec-2941c 9742-9761 9763 9762 9764-97a1 4a4a 97a2-97bb 4a4b-4a95 97bc-97cb 97e6 97cc 97e7",
    "97cd-97ce 97e8 97cf-97d5 97e9 97d6-97da 4a96-4ab3 97ea-97eb 97dc-97df 97ec 97db 97e0-97e5",
    "97ed-97f3 7adf-7ae0 97f4-97f7 2941d-29432 97f8-97fa 29433-2943e 97fb-97ff 2943f-29447 9800",
    "29448-294cf 9801 9875 9802-9804 9876-9877 9805-9809 9878-987b 980a-9813 9819 4ab4-4ab7",
    "987c-9884 9814-9818 981a 4ab8-4ad0 9885-9888 981b-9823 9826-982c 9889-988f 9824-9825",
    "982d-983d 983f 294d0-294e4 9890-9896 9840-984a 4ad1-4ae3 294e5-2959d 9897 983e 984b-9855",
    "9898-989d 9856-985e 4ae4-4afe 989e-98a1 985f-9868 98a2-98a3 9869-986b 98a4 986c-986f 98a5",
    "9870 98a6 9871-9872 98a7 9873-9874 98a8 98ce 98a9-98aa 2959e-295af 295b1-295b7 98cf",
    "98ab-98b1 4aff-4b0f 295b8-295d6 98d0-98d2 98b2-98b5 295d7-295e8 98b6-98b7 4b10-4b18",
    "295e9-2971f 98d3 98b8-98ba 98d4 98d6 98bb-98c0 4b19-4b1f 4b21-4b25 98d5 98d7 98c1-98c4 98d8",
    "98c5-98ca 98d9-98da 98cb-98cd 98db 98de 98dc-98dd 9963 98df-98e4 9964-9965 98e5-98e6",
    "9966-9967 98e7-98f2 4b26-4b2b 9968-996e 98f3-98f9 4b2c-4b36 996f-9974 98fa-990f 4b37-4b48",
    "9975-997c 9910-9919 991d 997d-9982 991a-991c 991e-9929 4b20 29720-29731 9983-9986 992a-9937",
    "4b49-4b52 29732-297d3 9987-9988 998a-998b 9938-9946 4b53-4b6e 9989 998c-9990 9947-9949",
    "9991-9992 994a-9953 9993-9994 9954-995b 297d4-2980f 995c-9962 9995-9996 29810-29856",
    "9997-999d 4b6f 999e-99a3 4b70-4b7a 99a4-99a7 29857-298a3 99a8-99ac 9a6c 99ad-99ae 9a6d",
    "99af-99b5 9a6e-9a70 99b6-99c7 4b7b-4b8d 9a71-9a74 99c8-99e0 298a4-298d0 9a75-9a80 99e1-99f2",
    "298d1-298e9 9a81-9a89 99f4-9a03 4b8e-4b92 298ea-298f0 9a8a-9a8f 99f3 9a04-9a13 4b93-4b9c",
    "298f1-2992e 9a90-9a96 9a14-9a28 4b9d-4bbc 2992f-29946 9a97-9a9b 9a29-9a38 29947-2999c",
    "9a9c-9a9f 9a39-9a47 9aa0-9aa2 9a48-9a55 2999d-299c2 9aa3 9a56-9a5f 9aa4 4bbd 299c3-29a27",
    "9a60-9a63 9a65 4bbe-4bbf 9aa5 9a64 9a66-9a67 9aa6-9aa7 9a68-9a69 4bc0-4bc7 9a6a-9a6b",
    "9aa8-9aae 29a28-29a4c 9aaf-9ab1 4bc8-4bff 9ab2-9abc 29a4d-29b04 9abd-9ac3 9ac5 9ac4",
    "9ac6-9ad0 9ad2 9ad1 9ad3-9aea 29b05-29bd4 9aeb-9afb 9b07 9afc-9b06 9b08 4c00-4c03 9b09-9b0f",
    "4c04-4c0d 9b10-9b18 9b1d 9b19-9b1c 4c0e-4c1f 29bd5-29c72 9b1e-9b24 29c73-29cac 9b25-9b42",
    "29cad-29d3d 9b43-9b46 4c20-4c25 9b47-9b4f 4c26-4c3a 9b50-9b59 29d3e-29d59 9b5a 9c7c",
    "9b5b-9b5e 9c7d 9b5f-9b62 29d5a-29d7b 9c7e 9b63-9b79 4c3b-4c48 29d7c-29d97 9c7f-9c83",
    "9b7a-9b98 9ba3 4c49-4c4a 29d98-29df5 9c84-9c90 9b99-9ba2 9ba4-9bb4 9bba 4c4b-4c5a 9c91-9c9f",
    "9bb5-9bb9 9bbb-9bd3 9bfd 29df6-29e05 9ca0-9cac 9bd4-9bf5 9bfb 4c5b-4c6c 29e06-29e67",
    "9cad-9cbb 9bf6-9bfa 9bfc 9bfe-9c1b 9c20 4c6d-4c7c 29e68-29eab 9cbc-9cbd 9cbf-9ccb 9c1c-9c1f",
    "9c21-9c30 4c7d-4c80 29eac-29ec2 9cbe 9ccc-9cd2 9c31-9c48 9de0 4c81-4ca2 29ec3-29ef7",
    "9cd3-9cdb 9c49-9c5b 29ef8-29f22 9cdc-9cdf 9c5c-9c67 9c69-9c6b 4ca3-4cad 29f23-29f2f",
    "9ce0-9ce3 9c68 9c6c-9c70 29f30-29fb6 9ce4 9c71-9c7b 9ce5 9e1f 9ce6-9cf0 9e20-9e21 9cf1-9cf6",
    "9e22-9e24 9cf7-9d09 9d0b-9d0e 4cae-4ccc 29fb7-29fdd 9e25-9e29 9d0a 9d0f-9d2c 29fde-2a013",
    "9e2a-9e36 9d2d-9d49 4ccd-4ce0 2a014-2a086 9e37-9e3f 9d4a-9d63 9d65 9e40-9e48 9d66-9d8f 9d91",
    "4ce1-4cec 2a087-2a0b8 9e49-9e54 9d90 9d92-9dab 4ced-4cff 2a0b9-2a0fd 9e55-9e57 9e59-9e5c",
    "9dac-9dca 9dcc-9dcf 2a0fe-2a132 9e58 9e5d-9e64 9dcb 9dd0-9ddf 2a133-2a191 9e65-9e68",
    "9de1-9df8 9dfa-9dfc 4d00-4d08 2a192-2a1b3 9e69-9e6c 9df9 9dfd-9e0a 4d09-4d0f 4d11-4d25",
    "2a1b4-2a1de 9e6d-9e70 9e0b-9e12 2a1df-2a1f4 9e71-9e72 9e13-9e14 2a1f5-2a21f 9e15-9e1a",
    "2a220-2a232 9e73-9e74 9e1b-9e1e 2a233-2a292 9e75-9e77 9e7e 9e78-9e7d 9e7f-9e82 2a2ff",
    "9e83-9e84 2a293-2a29e 9e85-9e88 2a29f-2a2b1 9e89-9e8b 2a2b2-2a2b3 9e8c-9e90 4d26-4d33",
    "2a2b4-2a2de 9e91-9e9e 2a2df-2a2fe 2a300-2a3a8 9e9f-9ea3 4d10 9ea4-9ea6 4d34-4d4b 9ea7-9ec1",
    "2a3a9-2a433 9ec2-9ed0 9ed2 9ed1 58a8 9ed3-9ed8 9eda-9ede 2a434-2a45a 9edf-9ee3 4d4c",
    "9ee4-9eea 4d4d 2a45b-2a5c5 9eeb-9eef 4d4e-4d90 9ef0-9ef8 4d91-4d9b 9ef9-9f04 9f0d 9f05-9f0c",
    "9f0e-9f1c 9f1e 9f1d 9f1f-9f4a 9f50 9f4b 2a5c6-2a5ca 9f4c-9f4d 2a5cb-2a600 9f4e-9f4f",
    "9f51-9f52 9f7f 9f53-9f54 9f62 9f80 9f55 9f81 9f56-9f58 9f82 9f59-9f61 9f63 9f83-9f86",
    "9f64-9f69 2a601-2a631 9f87-9f88 9f6a-9f6c 4d9c-4dbf 9f89-9f8a 9f6d-9f71 2a632-2a649",
    "9f72-9f77 9f8b-9f8c 9f78-9f7b 2a64a-2a6a8 9f7c-9f7e 9f8d 9f99 9f8e-9f8f 2a6a9-2a6df",
    "9f91-9f95 9f9a-9f9b 9f96-9f98 9f9c 9f9f 9f9d-9f9e 9fa0-9fa5"]

/-- The places of Han characters among each other. -/
def hanPlaces : CharTable Nat := CharTable.ofList (Run.characters han).zipIdx

end OperationLint.Collation
