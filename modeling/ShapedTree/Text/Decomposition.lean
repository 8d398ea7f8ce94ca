import ShapedTree.Text.Table

namespace ShapedTree

namespace Decomposition

/-- Rows of a number, the count of its numbers, and these. -/
def rowsOf : List Int → List (Nat × List Nat)
  | code :: count :: rest =>
    (code.toNat, (rest.take count.toNat).map Int.toNat) :: rowsOf (rest.drop count.toNat)
  | _ => []
termination_by row => row.length
decreasing_by simp; omega

/-- Composed code points and what they are made of. -/
def composed : List (Nat × List Nat) := rowsOf (Table.numbers
  ["192 2 65 768 193 2 65 769 194 2 65 770 195 2 65 771 196 2 65 776 197 2 65 778 199 2 67 807 200",
   "2 69 768 201 2 69 769 202 2 69 770 203 2 69 776 204 2 73 768 205 2 73 769 206 2 73 770 207 2",
   "73 776 209 2 78 771 210 2 79 768 211 2 79 769 212 2 79 770 213 2 79 771 214 2 79 776 217 2 85",
   "768 218 2 85 769 219 2 85 770 220 2 85 776 221 2 89 769 224 2 97 768 225 2 97 769 226 2 97 770",
   "227 2 97 771 228 2 97 776 229 2 97 778 231 2 99 807 232 2 101 768 233 2 101 769 234 2 101 770",
   "235 2 101 776 236 2 105 768 237 2 105 769 238 2 105 770 239 2 105 776 241 2 110 771 242 2 111",
   "768 243 2 111 769 244 2 111 770 245 2 111 771 246 2 111 776 249 2 117 768 250 2 117 769 251 2",
   "117 770 252 2 117 776 253 2 121 769 255 2 121 776 256 2 65 772 257 2 97 772 258 2 65 774 259 2",
   "97 774 260 2 65 808 261 2 97 808 262 2 67 769 263 2 99 769 264 2 67 770 265 2 99 770 266 2 67",
   "775 267 2 99 775 268 2 67 780 269 2 99 780 270 2 68 780 271 2 100 780 274 2 69 772 275 2 101",
   "772 276 2 69 774 277 2 101 774 278 2 69 775 279 2 101 775 280 2 69 808 281 2 101 808 282 2 69",
   "780 283 2 101 780 284 2 71 770 285 2 103 770 286 2 71 774 287 2 103 774 288 2 71 775 289 2 103",
   "775 290 2 71 807 291 2 103 807 292 2 72 770 293 2 104 770 296 2 73 771 297 2 105 771 298 2 73",
   "772 299 2 105 772 300 2 73 774 301 2 105 774 302 2 73 808 303 2 105 808 304 2 73 775 308 2 74",
   "770 309 2 106 770 310 2 75 807 311 2 107 807 313 2 76 769 314 2 108 769 315 2 76 807 316 2 108",
   "807 317 2 76 780 318 2 108 780 323 2 78 769 324 2 110 769 325 2 78 807 326 2 110 807 327 2 78",
   "780 328 2 110 780 332 2 79 772 333 2 111 772 334 2 79 774 335 2 111 774 336 2 79 779 337 2 111",
   "779 340 2 82 769 341 2 114 769 342 2 82 807 343 2 114 807 344 2 82 780 345 2 114 780 346 2 83",
   "769 347 2 115 769 348 2 83 770 349 2 115 770 350 2 83 807 351 2 115 807 352 2 83 780 353 2 115",
   "780 354 2 84 807 355 2 116 807 356 2 84 780 357 2 116 780 360 2 85 771 361 2 117 771 362 2 85",
   "772 363 2 117 772 364 2 85 774 365 2 117 774 366 2 85 778 367 2 117 778 368 2 85 779 369 2 117",
   "779 370 2 85 808 371 2 117 808 372 2 87 770 373 2 119 770 374 2 89 770 375 2 121 770 376 2 89",
   "776 377 2 90 769 378 2 122 769 379 2 90 775 380 2 122 775 381 2 90 780 382 2 122 780 416 2 79",
   "795 417 2 111 795 431 2 85 795 432 2 117 795 461 2 65 780 462 2 97 780 463 2 73 780 464 2 105",
   "780 465 2 79 780 466 2 111 780 467 2 85 780 468 2 117 780 469 3 85 776 772 470 3 117 776 772",
   "471 3 85 776 769 472 3 117 776 769 473 3 85 776 780 474 3 117 776 780 475 3 85 776 768 476 3",
   "117 776 768 478 3 65 776 772 479 3 97 776 772 480 3 65 775 772 481 3 97 775 772 482 2 198 772",
   "483 2 230 772 486 2 71 780 487 2 103 780 488 2 75 780 489 2 107 780 490 2 79 808 491 2 111 808",
   "492 3 79 808 772 493 3 111 808 772 494 2 439 780 495 2 658 780 496 2 106 780 500 2 71 769 501",
   "2 103 769 504 2 78 768 505 2 110 768 506 3 65 778 769 507 3 97 778 769 508 2 198 769 509 2 230",
   "769 510 2 216 769 511 2 248 769 512 2 65 783 513 2 97 783 514 2 65 785 515 2 97 785 516 2 69",
   "783 517 2 101 783 518 2 69 785 519 2 101 785 520 2 73 783 521 2 105 783 522 2 73 785 523 2 105",
   "785 524 2 79 783 525 2 111 783 526 2 79 785 527 2 111 785 528 2 82 783 529 2 114 783 530 2 82",
   "785 531 2 114 785 532 2 85 783 533 2 117 783 534 2 85 785 535 2 117 785 536 2 83 806 537 2 115",
   "806 538 2 84 806 539 2 116 806 542 2 72 780 543 2 104 780 550 2 65 775 551 2 97 775 552 2 69",
   "807 553 2 101 807 554 3 79 776 772 555 3 111 776 772 556 3 79 771 772 557 3 111 771 772 558 2",
   "79 775 559 2 111 775 560 3 79 775 772 561 3 111 775 772 562 2 89 772 563 2 121 772 832 1 768",
   "833 1 769 835 1 787 836 2 776 769 884 1 697 894 1 59 901 2 168 769 902 2 913 769 903 1 183 904",
   "2 917 769 905 2 919 769 906 2 921 769 908 2 927 769 910 2 933 769 911 2 937 769 912 3 953 776",
   "769 938 2 921 776 939 2 933 776 940 2 945 769 941 2 949 769 942 2 951 769 943 2 953 769 944 3",
   "965 776 769 970 2 953 776 971 2 965 776 972 2 959 769 973 2 965 769 974 2 969 769 979 2 978",
   "769 980 2 978 776 1024 2 1045 768 1025 2 1045 776 1027 2 1043 769 1031 2 1030 776 1036 2 1050",
   "769 1037 2 1048 768 1038 2 1059 774 1049 2 1048 774 1081 2 1080 774 1104 2 1077 768 1105 2",
   "1077 776 1107 2 1075 769 1111 2 1110 776 1116 2 1082 769 1117 2 1080 768 1118 2 1091 774 1142",
   "2 1140 783 1143 2 1141 783 1217 2 1046 774 1218 2 1078 774 1232 2 1040 774 1233 2 1072 774",
   "1234 2 1040 776 1235 2 1072 776 1238 2 1045 774 1239 2 1077 774 1242 2 1240 776 1243 2 1241",
   "776 1244 2 1046 776 1245 2 1078 776 1246 2 1047 776 1247 2 1079 776 1250 2 1048 772 1251 2",
   "1080 772 1252 2 1048 776 1253 2 1080 776 1254 2 1054 776 1255 2 1086 776 1258 2 1256 776 1259",
   "2 1257 776 1260 2 1069 776 1261 2 1101 776 1262 2 1059 772 1263 2 1091 772 1264 2 1059 776",
   "1265 2 1091 776 1266 2 1059 779 1267 2 1091 779 1268 2 1063 776 1269 2 1095 776 1272 2 1067",
   "776 1273 2 1099 776 1570 2 1575 1619 1571 2 1575 1620 1572 2 1608 1620 1573 2 1575 1621 1574 2",
   "1610 1620 1728 2 1749 1620 1730 2 1729 1620 1747 2 1746 1620 2345 2 2344 2364 2353 2 2352 2364",
   "2356 2 2355 2364 2392 2 2325 2364 2393 2 2326 2364 2394 2 2327 2364 2395 2 2332 2364 2396 2",
   "2337 2364 2397 2 2338 2364 2398 2 2347 2364 2399 2 2351 2364 2507 2 2503 2494 2508 2 2503 2519",
   "2524 2 2465 2492 2525 2 2466 2492 2527 2 2479 2492 2611 2 2610 2620 2614 2 2616 2620 2649 2",
   "2582 2620 2650 2 2583 2620 2651 2 2588 2620 2654 2 2603 2620 2888 2 2887 2902 2891 2 2887 2878",
   "2892 2 2887 2903 2908 2 2849 2876 2909 2 2850 2876 2964 2 2962 3031 3018 2 3014 3006 3019 2",
   "3015 3006 3020 2 3014 3031 3144 2 3142 3158 3264 2 3263 3285 3271 2 3270 3285 3272 2 3270 3286",
   "3274 2 3270 3266 3275 3 3270 3266 3285 3402 2 3398 3390 3403 2 3399 3390 3404 2 3398 3415 3546",
   "2 3545 3530 3548 2 3545 3535 3549 3 3545 3535 3530 3550 2 3545 3551 3907 2 3906 4023 3917 2",
   "3916 4023 3922 2 3921 4023 3927 2 3926 4023 3932 2 3931 4023 3945 2 3904 4021 3955 2 3953 3954",
   "3957 2 3953 3956 3958 2 4018 3968 3960 2 4019 3968 3969 2 3953 3968 3987 2 3986 4023 3997 2",
   "3996 4023 4002 2 4001 4023 4007 2 4006 4023 4012 2 4011 4023 4025 2 3984 4021 4134 2 4133 4142",
   "6918 2 6917 6965 6920 2 6919 6965 6922 2 6921 6965 6924 2 6923 6965 6926 2 6925 6965 6930 2",
   "6929 6965 6971 2 6970 6965 6973 2 6972 6965 6976 2 6974 6965 6977 2 6975 6965 6979 2 6978 6965",
   "7680 2 65 805 7681 2 97 805 7682 2 66 775 7683 2 98 775 7684 2 66 803 7685 2 98 803 7686 2 66",
   "817 7687 2 98 817 7688 3 67 807 769 7689 3 99 807 769 7690 2 68 775 7691 2 100 775 7692 2 68",
   "803 7693 2 100 803 7694 2 68 817 7695 2 100 817 7696 2 68 807 7697 2 100 807 7698 2 68 813",
   "7699 2 100 813 7700 3 69 772 768 7701 3 101 772 768 7702 3 69 772 769 7703 3 101 772 769 7704",
   "2 69 813 7705 2 101 813 7706 2 69 816 7707 2 101 816 7708 3 69 807 774 7709 3 101 807 774 7710",
   "2 70 775 7711 2 102 775 7712 2 71 772 7713 2 103 772 7714 2 72 775 7715 2 104 775 7716 2 72",
   "803 7717 2 104 803 7718 2 72 776 7719 2 104 776 7720 2 72 807 7721 2 104 807 7722 2 72 814",
   "7723 2 104 814 7724 2 73 816 7725 2 105 816 7726 3 73 776 769 7727 3 105 776 769 7728 2 75 769",
   "7729 2 107 769 7730 2 75 803 7731 2 107 803 7732 2 75 817 7733 2 107 817 7734 2 76 803 7735 2",
   "108 803 7736 3 76 803 772 7737 3 108 803 772 7738 2 76 817 7739 2 108 817 7740 2 76 813 7741 2",
   "108 813 7742 2 77 769 7743 2 109 769 7744 2 77 775 7745 2 109 775 7746 2 77 803 7747 2 109 803",
   "7748 2 78 775 7749 2 110 775 7750 2 78 803 7751 2 110 803 7752 2 78 817 7753 2 110 817 7754 2",
   "78 813 7755 2 110 813 7756 3 79 771 769 7757 3 111 771 769 7758 3 79 771 776 7759 3 111 771",
   "776 7760 3 79 772 768 7761 3 111 772 768 7762 3 79 772 769 7763 3 111 772 769 7764 2 80 769",
   "7765 2 112 769 7766 2 80 775 7767 2 112 775 7768 2 82 775 7769 2 114 775 7770 2 82 803 7771 2",
   "114 803 7772 3 82 803 772 7773 3 114 803 772 7774 2 82 817 7775 2 114 817 7776 2 83 775 7777 2",
   "115 775 7778 2 83 803 7779 2 115 803 7780 3 83 769 775 7781 3 115 769 775 7782 3 83 780 775",
   "7783 3 115 780 775 7784 3 83 803 775 7785 3 115 803 775 7786 2 84 775 7787 2 116 775 7788 2 84",
   "803 7789 2 116 803 7790 2 84 817 7791 2 116 817 7792 2 84 813 7793 2 116 813 7794 2 85 804",
   "7795 2 117 804 7796 2 85 816 7797 2 117 816 7798 2 85 813 7799 2 117 813 7800 3 85 771 769",
   "7801 3 117 771 769 7802 3 85 772 776 7803 3 117 772 776 7804 2 86 771 7805 2 118 771 7806 2 86",
   "803 7807 2 118 803 7808 2 87 768 7809 2 119 768 7810 2 87 769 7811 2 119 769 7812 2 87 776",
   "7813 2 119 776 7814 2 87 775 7815 2 119 775 7816 2 87 803 7817 2 119 803 7818 2 88 775 7819 2",
   "120 775 7820 2 88 776 7821 2 120 776 7822 2 89 775 7823 2 121 775 7824 2 90 770 7825 2 122 770",
   "7826 2 90 803 7827 2 122 803 7828 2 90 817 7829 2 122 817 7830 2 104 817 7831 2 116 776 7832 2",
   "119 778 7833 2 121 778 7835 2 383 775 7840 2 65 803 7841 2 97 803 7842 2 65 777 7843 2 97 777",
   "7844 3 65 770 769 7845 3 97 770 769 7846 3 65 770 768 7847 3 97 770 768 7848 3 65 770 777 7849",
   "3 97 770 777 7850 3 65 770 771 7851 3 97 770 771 7852 3 65 803 770 7853 3 97 803 770 7854 3 65",
   "774 769 7855 3 97 774 769 7856 3 65 774 768 7857 3 97 774 768 7858 3 65 774 777 7859 3 97 774",
   "777 7860 3 65 774 771 7861 3 97 774 771 7862 3 65 803 774 7863 3 97 803 774 7864 2 69 803 7865",
   "2 101 803 7866 2 69 777 7867 2 101 777 7868 2 69 771 7869 2 101 771 7870 3 69 770 769 7871 3",
   "101 770 769 7872 3 69 770 768 7873 3 101 770 768 7874 3 69 770 777 7875 3 101 770 777 7876 3",
   "69 770 771 7877 3 101 770 771 7878 3 69 803 770 7879 3 101 803 770 7880 2 73 777 7881 2 105",
   "777 7882 2 73 803 7883 2 105 803 7884 2 79 803 7885 2 111 803 7886 2 79 777 7887 2 111 777",
   "7888 3 79 770 769 7889 3 111 770 769 7890 3 79 770 768 7891 3 111 770 768 7892 3 79 770 777",
   "7893 3 111 770 777 7894 3 79 770 771 7895 3 111 770 771 7896 3 79 803 770 7897 3 111 803 770",
   "7898 3 79 795 769 7899 3 111 795 769 7900 3 79 795 768 7901 3 111 795 768 7902 3 79 795 777",
   "7903 3 111 795 777 7904 3 79 795 771 7905 3 111 795 771 7906 3 79 795 803 7907 3 111 795 803",
   "7908 2 85 803 7909 2 117 803 7910 2 85 777 7911 2 117 777 7912 3 85 795 769 7913 3 117 795 769",
   "7914 3 85 795 768 7915 3 117 795 768 7916 3 85 795 777 7917 3 117 795 777 7918 3 85 795 771",
   "7919 3 117 795 771 7920 3 85 795 803 7921 3 117 795 803 7922 2 89 768 7923 2 121 768 7924 2 89",
   "803 7925 2 121 803 7926 2 89 777 7927 2 121 777 7928 2 89 771 7929 2 121 771 7936 2 945 787",
   "7937 2 945 788 7938 3 945 787 768 7939 3 945 788 768 7940 3 945 787 769 7941 3 945 788 769",
   "7942 3 945 787 834 7943 3 945 788 834 7944 2 913 787 7945 2 913 788 7946 3 913 787 768 7947 3",
   "913 788 768 7948 3 913 787 769 7949 3 913 788 769 7950 3 913 787 834 7951 3 913 788 834 7952 2",
   "949 787 7953 2 949 788 7954 3 949 787 768 7955 3 949 788 768 7956 3 949 787 769 7957 3 949 788",
   "769 7960 2 917 787 7961 2 917 788 7962 3 917 787 768 7963 3 917 788 768 7964 3 917 787 769",
   "7965 3 917 788 769 7968 2 951 787 7969 2 951 788 7970 3 951 787 768 7971 3 951 788 768 7972 3",
   "951 787 769 7973 3 951 788 769 7974 3 951 787 834 7975 3 951 788 834 7976 2 919 787 7977 2 919",
   "788 7978 3 919 787 768 7979 3 919 788 768 7980 3 919 787 769 7981 3 919 788 769 7982 3 919 787",
   "834 7983 3 919 788 834 7984 2 953 787 7985 2 953 788 7986 3 953 787 768 7987 3 953 788 768",
   "7988 3 953 787 769 7989 3 953 788 769 7990 3 953 787 834 7991 3 953 788 834 7992 2 921 787",
   "7993 2 921 788 7994 3 921 787 768 7995 3 921 788 768 7996 3 921 787 769 7997 3 921 788 769",
   "7998 3 921 787 834 7999 3 921 788 834 8000 2 959 787 8001 2 959 788 8002 3 959 787 768 8003 3",
   "959 788 768 8004 3 959 787 769 8005 3 959 788 769 8008 2 927 787 8009 2 927 788 8010 3 927 787",
   "768 8011 3 927 788 768 8012 3 927 787 769 8013 3 927 788 769 8016 2 965 787 8017 2 965 788",
   "8018 3 965 787 768 8019 3 965 788 768 8020 3 965 787 769 8021 3 965 788 769 8022 3 965 787 834",
   "8023 3 965 788 834 8025 2 933 788 8027 3 933 788 768 8029 3 933 788 769 8031 3 933 788 834",
   "8032 2 969 787 8033 2 969 788 8034 3 969 787 768 8035 3 969 788 768 8036 3 969 787 769 8037 3",
   "969 788 769 8038 3 969 787 834 8039 3 969 788 834 8040 2 937 787 8041 2 937 788 8042 3 937 787",
   "768 8043 3 937 788 768 8044 3 937 787 769 8045 3 937 788 769 8046 3 937 787 834 8047 3 937 788",
   "834 8048 2 945 768 8049 2 945 769 8050 2 949 768 8051 2 949 769 8052 2 951 768 8053 2 951 769",
   "8054 2 953 768 8055 2 953 769 8056 2 959 768 8057 2 959 769 8058 2 965 768 8059 2 965 769 8060",
   "2 969 768 8061 2 969 769 8064 3 945 787 837 8065 3 945 788 837 8066 4 945 787 768 837 8067 4",
   "945 788 768 837 8068 4 945 787 769 837 8069 4 945 788 769 837 8070 4 945 787 834 837 8071 4",
   "945 788 834 837 8072 3 913 787 837 8073 3 913 788 837 8074 4 913 787 768 837 8075 4 913 788",
   "768 837 8076 4 913 787 769 837 8077 4 913 788 769 837 8078 4 913 787 834 837 8079 4 913 788",
   "834 837 8080 3 951 787 837 8081 3 951 788 837 8082 4 951 787 768 837 8083 4 951 788 768 837",
   "8084 4 951 787 769 837 8085 4 951 788 769 837 8086 4 951 787 834 837 8087 4 951 788 834 837",
   "8088 3 919 787 837 8089 3 919 788 837 8090 4 919 787 768 837 8091 4 919 788 768 837 8092 4 919",
   "787 769 837 8093 4 919 788 769 837 8094 4 919 787 834 837 8095 4 919 788 834 837 8096 3 969",
   "787 837 8097 3 969 788 837 8098 4 969 787 768 837 8099 4 969 788 768 837 8100 4 969 787 769",
   "837 8101 4 969 788 769 837 8102 4 969 787 834 837 8103 4 969 788 834 837 8104 3 937 787 837",
   "8105 3 937 788 837 8106 4 937 787 768 837 8107 4 937 788 768 837 8108 4 937 787 769 837 8109 4",
   "937 788 769 837 8110 4 937 787 834 837 8111 4 937 788 834 837 8112 2 945 774 8113 2 945 772",
   "8114 3 945 768 837 8115 2 945 837 8116 3 945 769 837 8118 2 945 834 8119 3 945 834 837 8120 2",
   "913 774 8121 2 913 772 8122 2 913 768 8123 2 913 769 8124 2 913 837 8126 1 953 8129 2 168 834",
   "8130 3 951 768 837 8131 2 951 837 8132 3 951 769 837 8134 2 951 834 8135 3 951 834 837 8136 2",
   "917 768 8137 2 917 769 8138 2 919 768 8139 2 919 769 8140 2 919 837 8141 2 8127 768 8142 2",
   "8127 769 8143 2 8127 834 8144 2 953 774 8145 2 953 772 8146 3 953 776 768 8147 3 953 776 769",
   "8150 2 953 834 8151 3 953 776 834 8152 2 921 774 8153 2 921 772 8154 2 921 768 8155 2 921 769",
   "8157 2 8190 768 8158 2 8190 769 8159 2 8190 834 8160 2 965 774 8161 2 965 772 8162 3 965 776",
   "768 8163 3 965 776 769 8164 2 961 787 8165 2 961 788 8166 2 965 834 8167 3 965 776 834 8168 2",
   "933 774 8169 2 933 772 8170 2 933 768 8171 2 933 769 8172 2 929 788 8173 2 168 768 8174 2 168",
   "769 8175 1 96 8178 3 969 768 837 8179 2 969 837 8180 3 969 769 837 8182 2 969 834 8183 3 969",
   "834 837 8184 2 927 768 8185 2 927 769 8186 2 937 768 8187 2 937 769 8188 2 937 837 8189 1 180",
   "8192 1 8194 8193 1 8195 8486 1 937 8490 1 75 8491 2 65 778 8602 2 8592 824 8603 2 8594 824",
   "8622 2 8596 824 8653 2 8656 824 8654 2 8660 824 8655 2 8658 824 8708 2 8707 824 8713 2 8712",
   "824 8716 2 8715 824 8740 2 8739 824 8742 2 8741 824 8769 2 8764 824 8772 2 8771 824 8775 2",
   "8773 824 8777 2 8776 824 8800 2 61 824 8802 2 8801 824 8813 2 8781 824 8814 2 60 824 8815 2 62",
   "824 8816 2 8804 824 8817 2 8805 824 8820 2 8818 824 8821 2 8819 824 8824 2 8822 824 8825 2",
   "8823 824 8832 2 8826 824 8833 2 8827 824 8836 2 8834 824 8837 2 8835 824 8840 2 8838 824 8841",
   "2 8839 824 8876 2 8866 824 8877 2 8872 824 8878 2 8873 824 8879 2 8875 824 8928 2 8828 824",
   "8929 2 8829 824 8930 2 8849 824 8931 2 8850 824 8938 2 8882 824 8939 2 8883 824 8940 2 8884",
   "824 8941 2 8885 824 9001 1 12296 9002 1 12297 10972 2 10973 824 12364 2 12363 12441 12366 2",
   "12365 12441 12368 2 12367 12441 12370 2 12369 12441 12372 2 12371 12441 12374 2 12373 12441",
   "12376 2 12375 12441 12378 2 12377 12441 12380 2 12379 12441 12382 2 12381 12441 12384 2 12383",
   "12441 12386 2 12385 12441 12389 2 12388 12441 12391 2 12390 12441 12393 2 12392 12441 12400 2",
   "12399 12441 12401 2 12399 12442 12403 2 12402 12441 12404 2 12402 12442 12406 2 12405 12441",
   "12407 2 12405 12442 12409 2 12408 12441 12410 2 12408 12442 12412 2 12411 12441 12413 2 12411",
   "12442 12436 2 12358 12441 12446 2 12445 12441 12460 2 12459 12441 12462 2 12461 12441 12464 2",
   "12463 12441 12466 2 12465 12441 12468 2 12467 12441 12470 2 12469 12441 12472 2 12471 12441",
   "12474 2 12473 12441 12476 2 12475 12441 12478 2 12477 12441 12480 2 12479 12441 12482 2 12481",
   "12441 12485 2 12484 12441 12487 2 12486 12441 12489 2 12488 12441 12496 2 12495 12441 12497 2",
   "12495 12442 12499 2 12498 12441 12500 2 12498 12442 12502 2 12501 12441 12503 2 12501 12442",
   "12505 2 12504 12441 12506 2 12504 12442 12508 2 12507 12441 12509 2 12507 12442 12532 2 12454",
   "12441 12535 2 12527 12441 12536 2 12528 12441 12537 2 12529 12441 12538 2 12530 12441 12542 2",
   "12541 12441 63744 1 35912 63745 1 26356 63746 1 36554 63747 1 36040 63748 1 28369 63749 1",
   "20018 63750 1 21477 63751 1 40860 63752 1 40860 63753 1 22865 63754 1 37329 63755 1 21895",
   "63756 1 22856 63757 1 25078 63758 1 30313 63759 1 32645 63760 1 34367 63761 1 34746 63762 1",
   "35064 63763 1 37007 63764 1 27138 63765 1 27931 63766 1 28889 63767 1 29662 63768 1 33853",
   "63769 1 37226 63770 1 39409 63771 1 20098 63772 1 21365 63773 1 27396 63774 1 29211 63775 1",
   "34349 63776 1 40478 63777 1 23888 63778 1 28651 63779 1 34253 63780 1 35172 63781 1 25289",
   "63782 1 33240 63783 1 34847 63784 1 24266 63785 1 26391 63786 1 28010 63787 1 29436 63788 1",
   "37070 63789 1 20358 63790 1 20919 63791 1 21214 63792 1 25796 63793 1 27347 63794 1 29200",
   "63795 1 30439 63796 1 32769 63797 1 34310 63798 1 34396 63799 1 36335 63800 1 38706 63801 1",
   "39791 63802 1 40442 63803 1 30860 63804 1 31103 63805 1 32160 63806 1 33737 63807 1 37636",
   "63808 1 40575 63809 1 35542 63810 1 22751 63811 1 24324 63812 1 31840 63813 1 32894 63814 1",
   "29282 63815 1 30922 63816 1 36034 63817 1 38647 63818 1 22744 63819 1 23650 63820 1 27155",
   "63821 1 28122 63822 1 28431 63823 1 32047 63824 1 32311 63825 1 38475 63826 1 21202 63827 1",
   "32907 63828 1 20956 63829 1 20940 63830 1 31260 63831 1 32190 63832 1 33777 63833 1 38517",
   "63834 1 35712 63835 1 25295 63836 1 27138 63837 1 35582 63838 1 20025 63839 1 23527 63840 1",
   "24594 63841 1 29575 63842 1 30064 63843 1 21271 63844 1 30971 63845 1 20415 63846 1 24489",
   "63847 1 19981 63848 1 27852 63849 1 25976 63850 1 32034 63851 1 21443 63852 1 22622 63853 1",
   "30465 63854 1 33865 63855 1 35498 63856 1 27578 63857 1 36784 63858 1 27784 63859 1 25342",
   "63860 1 33509 63861 1 25504 63862 1 30053 63863 1 20142 63864 1 20841 63865 1 20937 63866 1",
   "26753 63867 1 31975 63868 1 33391 63869 1 35538 63870 1 37327 63871 1 21237 63872 1 21570",
   "63873 1 22899 63874 1 24300 63875 1 26053 63876 1 28670 63877 1 31018 63878 1 38317 63879 1",
   "39530 63880 1 40599 63881 1 40654 63882 1 21147 63883 1 26310 63884 1 27511 63885 1 36706",
   "63886 1 24180 63887 1 24976 63888 1 25088 63889 1 25754 63890 1 28451 63891 1 29001 63892 1",
   "29833 63893 1 31178 63894 1 32244 63895 1 32879 63896 1 36646 63897 1 34030 63898 1 36899",
   "63899 1 37706 63900 1 21015 63901 1 21155 63902 1 21693 63903 1 28872 63904 1 35010 63905 1",
   "35498 63906 1 24265 63907 1 24565 63908 1 25467 63909 1 27566 63910 1 31806 63911 1 29557",
   "63912 1 20196 63913 1 22265 63914 1 23527 63915 1 23994 63916 1 24604 63917 1 29618 63918 1",
   "29801 63919 1 32666 63920 1 32838 63921 1 37428 63922 1 38646 63923 1 38728 63924 1 38936",
   "63925 1 20363 63926 1 31150 63927 1 37300 63928 1 38584 63929 1 24801 63930 1 20102 63931 1",
   "20698 63932 1 23534 63933 1 23615 63934 1 26009 63935 1 27138 63936 1 29134 63937 1 30274",
   "63938 1 34044 63939 1 36988 63940 1 40845 63941 1 26248 63942 1 38446 63943 1 21129 63944 1",
   "26491 63945 1 26611 63946 1 27969 63947 1 28316 63948 1 29705 63949 1 30041 63950 1 30827",
   "63951 1 32016 63952 1 39006 63953 1 20845 63954 1 25134 63955 1 38520 63956 1 20523 63957 1",
   "23833 63958 1 28138 63959 1 36650 63960 1 24459 63961 1 24900 63962 1 26647 63963 1 29575",
   "63964 1 38534 63965 1 21033 63966 1 21519 63967 1 23653 63968 1 26131 63969 1 26446 63970 1",
   "26792 63971 1 27877 63972 1 29702 63973 1 30178 63974 1 32633 63975 1 35023 63976 1 35041",
   "63977 1 37324 63978 1 38626 63979 1 21311 63980 1 28346 63981 1 21533 63982 1 29136 63983 1",
   "29848 63984 1 34298 63985 1 38563 63986 1 40023 63987 1 40607 63988 1 26519 63989 1 28107",
   "63990 1 33256 63991 1 31435 63992 1 31520 63993 1 31890 63994 1 29376 63995 1 28825 63996 1",
   "35672 63997 1 20160 63998 1 33590 63999 1 21050 64000 1 20999 64001 1 24230 64002 1 25299",
   "64003 1 31958 64004 1 23429 64005 1 27934 64006 1 26292 64007 1 36667 64008 1 34892 64009 1",
   "38477 64010 1 35211 64011 1 24275 64012 1 20800 64013 1 21952 64016 1 22618 64018 1 26228",
   "64021 1 20958 64022 1 29482 64023 1 30410 64024 1 31036 64025 1 31070 64026 1 31077 64027 1",
   "31119 64028 1 38742 64029 1 31934 64030 1 32701 64032 1 34322 64034 1 35576 64037 1 36920",
   "64038 1 37117 64042 1 39151 64043 1 39164 64044 1 39208 64045 1 40372 64046 1 37086 64047 1",
   "38583 64048 1 20398 64049 1 20711 64050 1 20813 64051 1 21193 64052 1 21220 64053 1 21329",
   "64054 1 21917 64055 1 22022 64056 1 22120 64057 1 22592 64058 1 22696 64059 1 23652 64060 1",
   "23662 64061 1 24724 64062 1 24936 64063 1 24974 64064 1 25074 64065 1 25935 64066 1 26082",
   "64067 1 26257 64068 1 26757 64069 1 28023 64070 1 28186 64071 1 28450 64072 1 29038 64073 1",
   "29227 64074 1 29730 64075 1 30865 64076 1 31038 64077 1 31049 64078 1 31048 64079 1 31056",
   "64080 1 31062 64081 1 31069 64082 1 31117 64083 1 31118 64084 1 31296 64085 1 31361 64086 1",
   "31680 64087 1 32244 64088 1 32265 64089 1 32321 64090 1 32626 64091 1 32773 64092 1 33261",
   "64093 1 33401 64094 1 33401 64095 1 33879 64096 1 35088 64097 1 35222 64098 1 35585 64099 1",
   "35641 64100 1 36051 64101 1 36104 64102 1 36790 64103 1 36920 64104 1 38627 64105 1 38911",
   "64106 1 38971 64107 1 24693 64108 1 148206 64109 1 33304 64112 1 20006 64113 1 20917 64114 1",
   "20840 64115 1 20352 64116 1 20805 64117 1 20864 64118 1 21191 64119 1 21242 64120 1 21917",
   "64121 1 21845 64122 1 21913 64123 1 21986 64124 1 22618 64125 1 22707 64126 1 22852 64127 1",
   "22868 64128 1 23138 64129 1 23336 64130 1 24274 64131 1 24281 64132 1 24425 64133 1 24493",
   "64134 1 24792 64135 1 24910 64136 1 24840 64137 1 24974 64138 1 24928 64139 1 25074 64140 1",
   "25140 64141 1 25540 64142 1 25628 64143 1 25682 64144 1 25942 64145 1 26228 64146 1 26391",
   "64147 1 26395 64148 1 26454 64149 1 27513 64150 1 27578 64151 1 27969 64152 1 28379 64153 1",
   "28363 64154 1 28450 64155 1 28702 64156 1 29038 64157 1 30631 64158 1 29237 64159 1 29359",
   "64160 1 29482 64161 1 29809 64162 1 29958 64163 1 30011 64164 1 30237 64165 1 30239 64166 1",
   "30410 64167 1 30427 64168 1 30452 64169 1 30538 64170 1 30528 64171 1 30924 64172 1 31409",
   "64173 1 31680 64174 1 31867 64175 1 32091 64176 1 32244 64177 1 32574 64178 1 32773 64179 1",
   "33618 64180 1 33775 64181 1 34681 64182 1 35137 64183 1 35206 64184 1 35222 64185 1 35519",
   "64186 1 35576 64187 1 35531 64188 1 35585 64189 1 35582 64190 1 35565 64191 1 35641 64192 1",
   "35722 64193 1 36104 64194 1 36664 64195 1 36978 64196 1 37273 64197 1 37494 64198 1 38524",
   "64199 1 38627 64200 1 38742 64201 1 38875 64202 1 38911 64203 1 38923 64204 1 38971 64205 1",
   "39698 64206 1 40860 64207 1 141386 64208 1 141380 64209 1 144341 64210 1 15261 64211 1 16408",
   "64212 1 16441 64213 1 152137 64214 1 154832 64215 1 163539 64216 1 40771 64217 1 40846 64285 2",
   "1497 1460 64287 2 1522 1463 64298 2 1513 1473 64299 2 1513 1474 64300 3 1513 1468 1473 64301 3",
   "1513 1468 1474 64302 2 1488 1463 64303 2 1488 1464 64304 2 1488 1468 64305 2 1489 1468 64306 2",
   "1490 1468 64307 2 1491 1468 64308 2 1492 1468 64309 2 1493 1468 64310 2 1494 1468 64312 2 1496",
   "1468 64313 2 1497 1468 64314 2 1498 1468 64315 2 1499 1468 64316 2 1500 1468 64318 2 1502 1468",
   "64320 2 1504 1468 64321 2 1505 1468 64323 2 1507 1468 64324 2 1508 1468 64326 2 1510 1468",
   "64327 2 1511 1468 64328 2 1512 1468 64329 2 1513 1468 64330 2 1514 1468 64331 2 1493 1465",
   "64332 2 1489 1471 64333 2 1499 1471 64334 2 1508 1471 69786 2 69785 69818 69788 2 69787 69818",
   "69803 2 69797 69818 69934 2 69937 69927 69935 2 69938 69927 70475 2 70471 70462 70476 2 70471",
   "70487 70843 2 70841 70842 70844 2 70841 70832 70846 2 70841 70845 71098 2 71096 71087 71099 2",
   "71097 71087 71992 2 71989 71984 119134 2 119127 119141 119135 2 119128 119141 119136 3 119128",
   "119141 119150 119137 3 119128 119141 119151 119138 3 119128 119141 119152 119139 3 119128",
   "119141 119153 119140 3 119128 119141 119154 119227 2 119225 119141 119228 2 119226 119141",
   "119229 3 119225 119141 119150 119230 3 119226 119141 119150 119231 3 119225 119141 119151",
   "119232 3 119226 119141 119151 194560 1 20029 194561 1 20024 194562 1 20033 194563 1 131362",
   "194564 1 20320 194565 1 20398 194566 1 20411 194567 1 20482 194568 1 20602 194569 1 20633",
   "194570 1 20711 194571 1 20687 194572 1 13470 194573 1 132666 194574 1 20813 194575 1 20820",
   "194576 1 20836 194577 1 20855 194578 1 132380 194579 1 13497 194580 1 20839 194581 1 20877",
   "194582 1 132427 194583 1 20887 194584 1 20900 194585 1 20172 194586 1 20908 194587 1 20917",
   "194588 1 168415 194589 1 20981 194590 1 20995 194591 1 13535 194592 1 21051 194593 1 21062",
   "194594 1 21106 194595 1 21111 194596 1 13589 194597 1 21191 194598 1 21193 194599 1 21220",
   "194600 1 21242 194601 1 21253 194602 1 21254 194603 1 21271 194604 1 21321 194605 1 21329",
   "194606 1 21338 194607 1 21363 194608 1 21373 194609 1 21375 194610 1 21375 194611 1 21375",
   "194612 1 133676 194613 1 28784 194614 1 21450 194615 1 21471 194616 1 133987 194617 1 21483",
   "194618 1 21489 194619 1 21510 194620 1 21662 194621 1 21560 194622 1 21576 194623 1 21608",
   "194624 1 21666 194625 1 21750 194626 1 21776 194627 1 21843 194628 1 21859 194629 1 21892",
   "194630 1 21892 194631 1 21913 194632 1 21931 194633 1 21939 194634 1 21954 194635 1 22294",
   "194636 1 22022 194637 1 22295 194638 1 22097 194639 1 22132 194640 1 20999 194641 1 22766",
   "194642 1 22478 194643 1 22516 194644 1 22541 194645 1 22411 194646 1 22578 194647 1 22577",
   "194648 1 22700 194649 1 136420 194650 1 22770 194651 1 22775 194652 1 22790 194653 1 22810",
   "194654 1 22818 194655 1 22882 194656 1 136872 194657 1 136938 194658 1 23020 194659 1 23067",
   "194660 1 23079 194661 1 23000 194662 1 23142 194663 1 14062 194664 1 14076 194665 1 23304",
   "194666 1 23358 194667 1 23358 194668 1 137672 194669 1 23491 194670 1 23512 194671 1 23527",
   "194672 1 23539 194673 1 138008 194674 1 23551 194675 1 23558 194676 1 24403 194677 1 23586",
   "194678 1 14209 194679 1 23648 194680 1 23662 194681 1 23744 194682 1 23693 194683 1 138724",
   "194684 1 23875 194685 1 138726 194686 1 23918 194687 1 23915 194688 1 23932 194689 1 24033",
   "194690 1 24034 194691 1 14383 194692 1 24061 194693 1 24104 194694 1 24125 194695 1 24169",
   "194696 1 14434 194697 1 139651 194698 1 14460 194699 1 24240 194700 1 24243 194701 1 24246",
   "194702 1 24266 194703 1 172946 194704 1 24318 194705 1 140081 194706 1 140081 194707 1 33281",
   "194708 1 24354 194709 1 24354 194710 1 14535 194711 1 144056 194712 1 156122 194713 1 24418",
   "194714 1 24427 194715 1 14563 194716 1 24474 194717 1 24525 194718 1 24535 194719 1 24569",
   "194720 1 24705 194721 1 14650 194722 1 14620 194723 1 24724 194724 1 141012 194725 1 24775",
   "194726 1 24904 194727 1 24908 194728 1 24910 194729 1 24908 194730 1 24954 194731 1 24974",
   "194732 1 25010 194733 1 24996 194734 1 25007 194735 1 25054 194736 1 25074 194737 1 25078",
   "194738 1 25104 194739 1 25115 194740 1 25181 194741 1 25265 194742 1 25300 194743 1 25424",
   "194744 1 142092 194745 1 25405 194746 1 25340 194747 1 25448 194748 1 25475 194749 1 25572",
   "194750 1 142321 194751 1 25634 194752 1 25541 194753 1 25513 194754 1 14894 194755 1 25705",
   "194756 1 25726 194757 1 25757 194758 1 25719 194759 1 14956 194760 1 25935 194761 1 25964",
   "194762 1 143370 194763 1 26083 194764 1 26360 194765 1 26185 194766 1 15129 194767 1 26257",
   "194768 1 15112 194769 1 15076 194770 1 20882 194771 1 20885 194772 1 26368 194773 1 26268",
   "194774 1 32941 194775 1 17369 194776 1 26391 194777 1 26395 194778 1 26401 194779 1 26462",
   "194780 1 26451 194781 1 144323 194782 1 15177 194783 1 26618 194784 1 26501 194785 1 26706",
   "194786 1 26757 194787 1 144493 194788 1 26766 194789 1 26655 194790 1 26900 194791 1 15261",
   "194792 1 26946 194793 1 27043 194794 1 27114 194795 1 27304 194796 1 145059 194797 1 27355",
   "194798 1 15384 194799 1 27425 194800 1 145575 194801 1 27476 194802 1 15438 194803 1 27506",
   "194804 1 27551 194805 1 27578 194806 1 27579 194807 1 146061 194808 1 138507 194809 1 146170",
   "194810 1 27726 194811 1 146620 194812 1 27839 194813 1 27853 194814 1 27751 194815 1 27926",
   "194816 1 27966 194817 1 28023 194818 1 27969 194819 1 28009 194820 1 28024 194821 1 28037",
   "194822 1 146718 194823 1 27956 194824 1 28207 194825 1 28270 194826 1 15667 194827 1 28363",
   "194828 1 28359 194829 1 147153 194830 1 28153 194831 1 28526 194832 1 147294 194833 1 147342",
   "194834 1 28614 194835 1 28729 194836 1 28702 194837 1 28699 194838 1 15766 194839 1 28746",
   "194840 1 28797 194841 1 28791 194842 1 28845 194843 1 132389 194844 1 28997 194845 1 148067",
   "194846 1 29084 194847 1 148395 194848 1 29224 194849 1 29237 194850 1 29264 194851 1 149000",
   "194852 1 29312 194853 1 29333 194854 1 149301 194855 1 149524 194856 1 29562 194857 1 29579",
   "194858 1 16044 194859 1 29605 194860 1 16056 194861 1 16056 194862 1 29767 194863 1 29788",
   "194864 1 29809 194865 1 29829 194866 1 29898 194867 1 16155 194868 1 29988 194869 1 150582",
   "194870 1 30014 194871 1 150674 194872 1 30064 194873 1 139679 194874 1 30224 194875 1 151457",
   "194876 1 151480 194877 1 151620 194878 1 16380 194879 1 16392 194880 1 30452 194881 1 151795",
   "194882 1 151794 194883 1 151833 194884 1 151859 194885 1 30494 194886 1 30495 194887 1 30495",
   "194888 1 30538 194889 1 16441 194890 1 30603 194891 1 16454 194892 1 16534 194893 1 152605",
   "194894 1 30798 194895 1 30860 194896 1 30924 194897 1 16611 194898 1 153126 194899 1 31062",
   "194900 1 153242 194901 1 153285 194902 1 31119 194903 1 31211 194904 1 16687 194905 1 31296",
   "194906 1 31306 194907 1 31311 194908 1 153980 194909 1 154279 194910 1 154279 194911 1 31470",
   "194912 1 16898 194913 1 154539 194914 1 31686 194915 1 31689 194916 1 16935 194917 1 154752",
   "194918 1 31954 194919 1 17056 194920 1 31976 194921 1 31971 194922 1 32000 194923 1 155526",
   "194924 1 32099 194925 1 17153 194926 1 32199 194927 1 32258 194928 1 32325 194929 1 17204",
   "194930 1 156200 194931 1 156231 194932 1 17241 194933 1 156377 194934 1 32634 194935 1 156478",
   "194936 1 32661 194937 1 32762 194938 1 32773 194939 1 156890 194940 1 156963 194941 1 32864",
   "194942 1 157096 194943 1 32880 194944 1 144223 194945 1 17365 194946 1 32946 194947 1 33027",
   "194948 1 17419 194949 1 33086 194950 1 23221 194951 1 157607 194952 1 157621 194953 1 144275",
   "194954 1 144284 194955 1 33281 194956 1 33284 194957 1 36766 194958 1 17515 194959 1 33425",
   "194960 1 33419 194961 1 33437 194962 1 21171 194963 1 33457 194964 1 33459 194965 1 33469",
   "194966 1 33510 194967 1 158524 194968 1 33509 194969 1 33565 194970 1 33635 194971 1 33709",
   "194972 1 33571 194973 1 33725 194974 1 33767 194975 1 33879 194976 1 33619 194977 1 33738",
   "194978 1 33740 194979 1 33756 194980 1 158774 194981 1 159083 194982 1 158933 194983 1 17707",
   "194984 1 34033 194985 1 34035 194986 1 34070 194987 1 160714 194988 1 34148 194989 1 159532",
   "194990 1 17757 194991 1 17761 194992 1 159665 194993 1 159954 194994 1 17771 194995 1 34384",
   "194996 1 34396 194997 1 34407 194998 1 34409 194999 1 34473 195000 1 34440 195001 1 34574",
   "195002 1 34530 195003 1 34681 195004 1 34600 195005 1 34667 195006 1 34694 195007 1 17879",
   "195008 1 34785 195009 1 34817 195010 1 17913 195011 1 34912 195012 1 34915 195013 1 161383",
   "195014 1 35031 195015 1 35038 195016 1 17973 195017 1 35066 195018 1 13499 195019 1 161966",
   "195020 1 162150 195021 1 18110 195022 1 18119 195023 1 35488 195024 1 35565 195025 1 35722",
   "195026 1 35925 195027 1 162984 195028 1 36011 195029 1 36033 195030 1 36123 195031 1 36215",
   "195032 1 163631 195033 1 133124 195034 1 36299 195035 1 36284 195036 1 36336 195037 1 133342",
   "195038 1 36564 195039 1 36664 195040 1 165330 195041 1 165357 195042 1 37012 195043 1 37105",
   "195044 1 37137 195045 1 165678 195046 1 37147 195047 1 37432 195048 1 37591 195049 1 37592",
   "195050 1 37500 195051 1 37881 195052 1 37909 195053 1 166906 195054 1 38283 195055 1 18837",
   "195056 1 38327 195057 1 167287 195058 1 18918 195059 1 38595 195060 1 23986 195061 1 38691",
   "195062 1 168261 195063 1 168474 195064 1 19054 195065 1 19062 195066 1 38880 195067 1 168970",
   "195068 1 19122 195069 1 169110 195070 1 38923 195071 1 38923 195072 1 38953 195073 1 169398",
   "195074 1 39138 195075 1 19251 195076 1 39209 195077 1 39335 195078 1 39362 195079 1 39422",
   "195080 1 19406 195081 1 170800 195082 1 39698 195083 1 40000 195084 1 40189 195085 1 19662",
   "195086 1 19693 195087 1 40295 195088 1 172238 195089 1 19704 195090 1 172293 195091 1 172558",
   "195092 1 172689 195093 1 40635 195094 1 19798 195095 1 40697 195096 1 40702 195097 1 40709",
   "195098 1 40719 195099 1 40726 195100 1 40763 195101 1 173568"])

/-- Runs of marks of one combining class, as first, last and class. -/
def classRuns : List (Nat × Nat × Nat) := Table.triples (Table.numbers
  ["768 788 230 789 789 232 790 793 220 794 794 232 795 795 216 796 800 220 801 802 202 803 806",
   "220 807 808 202 809 819 220 820 824 1 825 828 220 829 836 230 837 837 240 838 838 230 839 841",
   "220 842 844 230 845 846 220 848 850 230 851 854 220 855 855 230 856 856 232 857 858 220 859",
   "859 230 860 860 233 861 862 234 863 863 233 864 865 234 866 866 233 867 879 230 1155 1159 230",
   "1425 1425 220 1426 1429 230 1430 1430 220 1431 1433 230 1434 1434 222 1435 1435 220 1436 1441",
   "230 1442 1447 220 1448 1449 230 1450 1450 220 1451 1452 230 1453 1453 222 1454 1454 228 1455",
   "1455 230 1456 1456 10 1457 1457 11 1458 1458 12 1459 1459 13 1460 1460 14 1461 1461 15 1462",
   "1462 16 1463 1463 17 1464 1464 18 1465 1466 19 1467 1467 20 1468 1468 21 1469 1469 22 1471",
   "1471 23 1473 1473 24 1474 1474 25 1476 1476 230 1477 1477 220 1479 1479 18 1552 1559 230 1560",
   "1560 30 1561 1561 31 1562 1562 32 1611 1611 27 1612 1612 28 1613 1613 29 1614 1614 30 1615",
   "1615 31 1616 1616 32 1617 1617 33 1618 1618 34 1619 1620 230 1621 1622 220 1623 1627 230 1628",
   "1628 220 1629 1630 230 1631 1631 220 1648 1648 35 1750 1756 230 1759 1762 230 1763 1763 220",
   "1764 1764 230 1767 1768 230 1770 1770 220 1771 1772 230 1773 1773 220 1809 1809 36 1840 1840",
   "230 1841 1841 220 1842 1843 230 1844 1844 220 1845 1846 230 1847 1849 220 1850 1850 230 1851",
   "1852 220 1853 1853 230 1854 1854 220 1855 1857 230 1858 1858 220 1859 1859 230 1860 1860 220",
   "1861 1861 230 1862 1862 220 1863 1863 230 1864 1864 220 1865 1866 230 2027 2033 230 2034 2034",
   "220 2035 2035 230 2045 2045 220 2070 2073 230 2075 2083 230 2085 2087 230 2089 2093 230 2137",
   "2139 220 2200 2200 230 2201 2203 220 2204 2207 230 2250 2254 230 2255 2259 220 2260 2273 230",
   "2275 2275 220 2276 2277 230 2278 2278 220 2279 2280 230 2281 2281 220 2282 2284 230 2285 2287",
   "220 2288 2288 27 2289 2289 28 2290 2290 29 2291 2293 230 2294 2294 220 2295 2296 230 2297 2298",
   "220 2299 2303 230 2364 2364 7 2381 2381 9 2385 2385 230 2386 2386 220 2387 2388 230 2492 2492",
   "7 2509 2509 9 2558 2558 230 2620 2620 7 2637 2637 9 2748 2748 7 2765 2765 9 2876 2876 7 2893",
   "2893 9 3021 3021 9 3132 3132 7 3149 3149 9 3157 3157 84 3158 3158 91 3260 3260 7 3277 3277 9",
   "3387 3388 9 3405 3405 9 3530 3530 9 3640 3641 103 3642 3642 9 3656 3659 107 3768 3769 118 3770",
   "3770 9 3784 3787 122 3864 3865 220 3893 3893 220 3895 3895 220 3897 3897 216 3953 3953 129",
   "3954 3954 130 3956 3956 132 3962 3965 130 3968 3968 130 3970 3971 230 3972 3972 9 3974 3975",
   "230 4038 4038 220 4151 4151 7 4153 4154 9 4237 4237 220 4957 4959 230 5908 5909 9 5940 5940 9",
   "6098 6098 9 6109 6109 230 6313 6313 228 6457 6457 222 6458 6458 230 6459 6459 220 6679 6679",
   "230 6680 6680 220 6752 6752 9 6773 6780 230 6783 6783 220 6832 6836 230 6837 6842 220 6843",
   "6844 230 6845 6845 220 6847 6848 220 6849 6850 230 6851 6852 220 6853 6857 230 6858 6858 220",
   "6859 6862 230 6964 6964 7 6980 6980 9 7019 7019 230 7020 7020 220 7021 7027 230 7082 7083 9",
   "7142 7142 7 7154 7155 9 7223 7223 7 7376 7378 230 7380 7380 1 7381 7385 220 7386 7387 230 7388",
   "7391 220 7392 7392 230 7394 7400 1 7405 7405 220 7412 7412 230 7416 7417 230 7616 7617 230",
   "7618 7618 220 7619 7625 230 7626 7626 220 7627 7628 230 7629 7629 234 7630 7630 214 7631 7631",
   "220 7632 7632 202 7633 7669 230 7670 7670 232 7671 7672 228 7673 7673 220 7674 7674 218 7675",
   "7675 230 7676 7676 233 7677 7677 220 7678 7678 230 7679 7679 220 8400 8401 230 8402 8403 1",
   "8404 8407 230 8408 8410 1 8411 8412 230 8417 8417 230 8421 8422 1 8423 8423 230 8424 8424 220",
   "8425 8425 230 8426 8427 1 8428 8431 220 8432 8432 230 11503 11505 230 11647 11647 9 11744",
   "11775 230 12330 12330 218 12331 12331 228 12332 12332 232 12333 12333 222 12334 12335 224",
   "12441 12442 8 42607 42607 230 42612 42621 230 42654 42655 230 42736 42737 230 43014 43014 9",
   "43052 43052 9 43204 43204 9 43232 43249 230 43307 43309 220 43347 43347 9 43443 43443 7 43456",
   "43456 9 43696 43696 230 43698 43699 230 43700 43700 220 43703 43704 230 43710 43711 230 43713",
   "43713 230 43766 43766 9 44013 44013 9 64286 64286 26 65056 65062 230 65063 65069 220 65070",
   "65071 230 66045 66045 220 66272 66272 220 66422 66426 230 68109 68109 220 68111 68111 230",
   "68152 68152 230 68153 68153 1 68154 68154 220 68159 68159 9 68325 68325 230 68326 68326 220",
   "68900 68903 230 69291 69292 230 69373 69375 220 69446 69447 220 69448 69450 230 69451 69451",
   "220 69452 69452 230 69453 69456 220 69506 69506 230 69507 69507 220 69508 69508 230 69509",
   "69509 220 69702 69702 9 69744 69744 9 69759 69759 9 69817 69817 9 69818 69818 7 69888 69890",
   "230 69939 69940 9 70003 70003 7 70080 70080 9 70090 70090 7 70197 70197 9 70198 70198 7 70377",
   "70377 7 70378 70378 9 70459 70460 7 70477 70477 9 70502 70508 230 70512 70516 230 70722 70722",
   "9 70726 70726 7 70750 70750 230 70850 70850 9 70851 70851 7 71103 71103 9 71104 71104 7 71231",
   "71231 9 71350 71350 9 71351 71351 7 71467 71467 9 71737 71737 9 71738 71738 7 71997 71998 9",
   "72003 72003 7 72160 72160 9 72244 72244 9 72263 72263 9 72345 72345 9 72767 72767 9 73026",
   "73026 7 73028 73029 9 73111 73111 9 73537 73538 9 92912 92916 1 92976 92982 230 94192 94193 6",
   "113822 113822 1 119141 119142 216 119143 119145 1 119149 119149 226 119150 119154 216 119163",
   "119170 220 119173 119177 230 119178 119179 220 119210 119213 230 119362 119364 230 122880",
   "122886 230 122888 122904 230 122907 122913 230 122915 122916 230 122918 122922 230 123023",
   "123023 230 123184 123190 230 123566 123566 230 123628 123631 230 124140 124141 232 124142",
   "124142 220 124143 124143 230 125136 125142 220 125252 125257 230 125258 125258 7"])

/-- The combining class of a code point; letters and other bases have class zero. -/
def combiningClass (n : Nat) : Nat :=
  if n < 0x300 then 0
  else
    match classRuns.find? fun (first, last, _) => first ≤ n && n ≤ last with
    | some (_, _, c) => c
    | none => 0

/-- The letters of a Hangul syllable: its onset, its vowel, and its coda if it has one. -/
def hangulLetters (n : Nat) : List Nat :=
  let place := n - 0xAC00
  let coda := place % 28
  [0x1100 + place / 588, 0x1161 + place % 588 / 28] ++ if coda = 0 then [] else [0x11A7 + coda]

/-- What a code point is made of, itself if it is not composed. -/
def ofCode (n : Nat) : List Nat :=
  if n < 0xC0 then [n]
  else if 0xAC00 ≤ n ∧ n ≤ 0xD7A3 then hangulLetters n
  else (composed.lookup n).getD [n]

/-- Puts a code point in front of others; a mark moves behind the marks of lower classes. -/
def place (n : Nat) : List Nat → List Nat
  | [] => [n]
  | m :: rest =>
    if combiningClass m ≠ 0 ∧ combiningClass m < combiningClass n then m :: place n rest
    else n :: m :: rest

/-- Marks in a row in the order of their classes, those of one class as they stood. -/
def ordered (codes : List Nat) : List Nat := codes.foldr place []

/-- The canonical decomposition of a text. -/
def ofText (s : String) : List Nat := ordered (s.toList.flatMap fun c => ofCode c.toNat)

end Decomposition

end ShapedTree
