import ShapedTree.Text.Table

namespace ShapedTree

namespace Collation

/-- Weights of letter, accent and case; a zero weight does not count. -/
structure Element where
  letter : Nat
  accent : Nat
  variant : Nat

/-- The accent of a letter that has none. -/
def noAccent : Nat := 32

/-- The case of a small letter, which is that of all without case. -/
def smallCase : Nat := 2

/-- The case of a capital letter. -/
def capitalCase : Nat := 8

/-- A letter without accent or case. -/
def Element.plain (letter : Nat) : Element := ⟨letter, noAccent, smallCase⟩

/-- Code points in a row whose elements differ only in a letter that grows by a step from one to
the next. By step two they alternate between capital and small, and the letter grows with each
pair. -/
structure Run where
  first : Nat
  count : Nat
  step : Nat
  elements : List Element

namespace Run

/-- A code point lies in the run. -/
def covers (r : Run) (n : Nat) : Bool := r.first ≤ n && n < r.first + r.count

/-- The element of a code point that lies so far behind the first one. -/
def shifted (step distance : Nat) (e : Element) : Element :=
  if step = 2 then
    ⟨e.letter + distance / 2, e.accent, if distance % 2 = 0 then capitalCase else smallCase⟩
  else { e with letter := e.letter + step * distance }

/-- The elements of a code point in the run. -/
def elementsAt (r : Run) (n : Nat) : List Element :=
  r.elements.map (shifted r.step (n - r.first))

end Run

/-- Elements in groups of three weights. -/
def elementsOf : List Int → List Element
  | a :: b :: c :: rest => ⟨a.toNat, b.toNat, c.toNat⟩ :: elementsOf rest
  | _ => []

/-- Runs of one element without accent, as first, count, step and letter. -/
def letterTable : List Int := Table.numbers
  ["9 5 1 2 32 1 0 10 33 1 0 107 34 1 0 311 35 1 0 462 36 1 0 7285 37 1 0 463 38 1 0 459 39 1 0",
   "304 40 2 1 330 42 1 0 451 43 1 0 1193 44 1 0 38 45 1 0 14 46 1 0 133 47 1 0 456 48 10 1 7835",
   "58 1 0 68 59 1 0 61 60 3 1 1197 63 1 0 114 64 1 0 450 91 1 0 332 92 1 0 457 93 1 0 333 94 1 0",
   "741 95 1 0 12 96 1 0 738 97 1 0 7845 98 1 0 7859 99 1 0 7870 100 1 0 7879 101 1 0 7892 102 1 0",
   "7915 103 1 0 7924 104 1 0 7936 105 1 0 7948 106 1 0 7960 107 1 0 7967 108 1 0 7976 109 1 0",
   "7997 110 1 0 8006 111 1 0 8021 112 1 0 8050 113 1 0 8062 114 1 0 8069 115 1 0 8099 116 1 0",
   "8120 117 1 0 8131 118 1 0 8156 119 1 0 8165 120 1 0 8239 121 1 0 8248 122 1 0 8255 123 1 0 334",
   "124 1 0 1201 125 1 0 335 126 1 0 1203 133 1 0 7 161 1 0 108 162 1 0 7284 163 1 0 7286 164 1 0",
   "7283 165 1 0 7287 166 1 0 1202 167 1 0 444 168 1 0 745 169 1 0 1045 171 1 0 328 172 1 0 1200",
   "174 1 0 1047 175 1 0 742 176 1 0 856 177 1 0 1194 180 1 0 739 182 1 0 446 183 1 0 154 184 1 0",
   "748 187 1 0 329 191 1 0 115 215 1 0 1196 247 1 0 1195 254 1 0 8310 305 1 0 7949 312 1 0 8068",
   "330 2 2 8019 358 2 2 8122 384 1 0 7861 387 1 0 7868 388 2 2 8328 391 2 2 7875 395 2 2 7888 401",
   "2 2 7921 405 1 0 7938 408 2 2 7970 410 1 0 7981 411 1 0 7995 414 1 0 8012 418 2 2 7935 420 2 2",
   "8056 423 2 2 8326 426 1 0 8116 427 1 0 8125 428 2 2 8126 435 2 2 8251 437 2 2 8295 440 2 2",
   "8306 442 1 0 8308 443 1 0 8322 444 2 2 8327 447 1 0 8313 448 4 1 8347 477 1 0 7900 484 2 2",
   "7928 540 2 2 8254 545 1 0 7889 546 2 2 8048 548 2 2 8298 564 1 0 7991 565 1 0 8016 566 1 0",
   "8128 567 1 0 7961 571 2 2 7872 575 1 0 8110 576 1 0 8301 577 2 2 8330 582 2 2 7896 584 2 2",
   "7963 586 2 2 8067 588 2 2 8075 590 2 2 8250 592 2 1 7853 594 1 0 7857 595 1 0 7867 596 1 0",
   "8034 597 1 0 7876 598 2 1 7885 600 1 0 7906 601 1 0 7902 602 1 0 7907 603 1 0 7904 604 1 0",
   "7908 605 2 1 7911 607 1 0 7965 608 1 0 7930 609 1 0 7925 610 1 0 7927 611 1 0 7934 612 1 0",
   "7914 613 1 0 8147 614 1 0 7940 615 1 0 7945 616 1 0 7954 617 1 0 7958 618 1 0 7950 619 1 0",
   "7983 620 1 0 7986 621 1 0 7989 622 1 0 7993 623 1 0 8150 624 1 0 8153 625 1 0 8001 626 1 0",
   "8011 627 1 0 8015 628 1 0 8007 629 1 0 8044 630 1 0 8025 631 1 0 8046 632 1 0 8060 633 1 0",
   "8077 634 1 0 8079 635 1 0 8081 636 2 1 8083 638 1 0 8086 639 1 0 8088 640 1 0 8071 641 1 0",
   "8094 642 1 0 8109 643 1 0 8113 644 1 0 7966 645 1 0 8117 646 1 0 8119 647 1 0 8130 648 1 0",
   "8127 649 1 0 8139 650 1 0 8154 651 1 0 8160 652 1 0 8164 653 1 0 8238 654 1 0 7996 655 1 0",
   "8249 656 2 1 8299 658 1 0 8304 659 1 0 8309 660 1 0 8329 661 1 0 8338 662 1 0 8346 663 2 1",
   "8351 665 1 0 7860 666 1 0 7913 667 1 0 7931 668 1 0 7937 669 1 0 7964 670 1 0 7975 671 1 0",
   "7977 672 1 0 8066 673 2 1 8344 684 2 1 8353 686 2 1 8148 697 1 0 755 698 1 0 757 699 1 0 7946",
   "700 1 0 8332 701 1 0 7947 702 1 0 8334 703 1 0 8339 704 1 0 8331 705 1 0 8340 706 14 1 758 720",
   "2 1 7254 722 4 1 772 726 2 1 778 728 2 1 743 730 1 0 746 731 1 0 749 732 1 0 740 733 1 0 747",
   "734 2 1 780 741 9 1 782 750 1 0 8333 751 17 1 791 880 2 2 8365 882 2 2 8398 885 1 0 756 886 2",
   "2 8362 891 1 0 8387 892 1 0 8386 893 1 0 8388 900 1 0 739 945 3 1 8355 948 2 1 8359 950 1 0",
   "8364 951 3 1 8366 954 2 1 8370 956 5 1 8373 961 1 0 8382 963 1 0 8385 964 5 1 8389 969 1 0",
   "8395 984 2 2 8381 986 2 2 8363 988 2 2 8361 990 2 2 8380 992 2 2 8397 994 2 2 8431 996 4 2",
   "8436 1000 2 2 8440 1002 2 2 8447 1004 2 2 8450 1006 2 2 8454 1011 1 0 8369 1014 1 0 1188 1015",
   "2 2 8399 1018 2 2 8379 1020 1 0 8384 1072 1 0 8460 1073 3 1 8463 1076 1 0 8470 1077 1 0 8477",
   "1078 1 0 8479 1079 1 0 8483 1080 1 0 8494 1082 1 0 8501 1083 1 0 8509 1084 1 0 8519 1085 1 0",
   "8522 1086 1 0 8531 1087 1 0 8533 1088 1 0 8537 1089 1 0 8540 1090 1 0 8543 1091 1 0 8549 1092",
   "2 1 8554 1094 1 0 8567 1095 1 0 8572 1096 1 0 8582 1097 1 0 8584 1098 1 0 8588 1099 2 1 8590",
   "1101 2 1 8595 1103 1 0 8599 1106 1 0 8473 1108 1 0 8478 1109 1 0 8488 1110 1 0 8496 1112 1 0",
   "8499 1113 1 0 8515 1114 1 0 8529 1115 1 0 8548 1119 1 0 8581 1120 2 2 8562 1122 2 2 8593 1124",
   "4 2 8601 1128 2 2 8606 1130 2 2 8604 1132 10 2 8608 1144 2 2 8553 1146 2 2 8566 1148 2 2 8565",
   "1150 2 2 8563 1152 2 2 8536 1154 1 0 857 1162 2 2 8495 1164 2 2 8592 1166 2 2 8538 1170 2 2",
   "8466 1172 2 2 8468 1174 2 2 8482 1176 2 2 8476 1178 2 2 8502 1180 2 2 8506 1182 2 2 8505 1184",
   "2 2 8504 1186 2 2 8525 1188 2 2 8528 1190 2 2 8535 1192 2 2 8614 1194 2 2 8542 1196 2 2 8546",
   "1198 4 2 8550 1202 2 2 8558 1204 2 2 8570 1206 2 2 8575 1208 2 2 8577 1210 2 2 8559 1212 4 2",
   "8579 1219 2 2 8503 1221 2 2 8511 1223 2 2 8526 1225 2 2 8524 1227 2 2 8576 1229 2 2 8520 1231",
   "1 0 8616 1236 2 2 8462 1240 2 2 8461 1248 2 2 8490 1256 2 2 8532 1270 2 2 8469 1274 2 2 8467",
   "1276 4 2 8556 1280 2 2 8471 1282 2 2 8475 1284 2 2 8485 1286 2 2 8492 1288 2 2 8517 1290 2 2",
   "8530 1292 2 2 8541 1294 2 2 8545 1296 2 2 8486 1298 2 2 8513 1300 2 2 8518 1302 2 2 8539 1304",
   "2 2 8600 1306 2 2 8508 1308 2 2 8615 1310 2 2 8507 1312 2 2 8514 1314 2 2 8527 1316 2 2 8534",
   "1318 2 2 8560 1320 2 2 8523 1322 2 2 8480 1324 2 2 8573 1326 2 2 8512 1369 1 0 8829 1370 2 1",
   "518 1372 1 0 110 1373 1 0 45 1374 1 0 119 1375 1 0 520 1376 1 0 8790 1377 1 0 8789 1378 20 1",
   "8791 1398 17 1 8812 1416 1 0 8811 1417 1 0 69 1418 1 0 15 1421 2 1 858 1423 1 0 7288 1470 1 0",
   "521 1472 1 0 522 1475 1 0 523 1478 1 0 524 1488 10 1 8830 1499 2 1 8840 1502 1 0 8842 1504 3 1",
   "8843 1508 1 0 8846 1510 5 1 8847 1523 2 1 525 1542 1 0 1216 1543 1 0 1218 1544 1 0 860 1545 1",
   "0 466 1546 1 0 468 1547 1 0 7289 1548 2 1 46 1550 2 1 863 1563 1 0 62 1565 1 0 63 1566 1 0 70",
   "1567 1 0 120 1568 1 0 9153 1569 1 0 8900 1575 1 0 8914 1576 1 0 8916 1577 3 1 8932 1580 1 0",
   "8943 1581 2 1 8953 1583 2 1 8964 1585 2 1 8979 1587 2 1 8998 1589 2 1 9009 1591 2 1 9015 1593",
   "2 1 9019 1595 2 1 9094 1597 3 1 9150 1601 1 0 9028 1602 1 0 9040 1603 1 0 9046 1604 1 0 9099",
   "1605 1 0 9109 1606 1 0 9113 1607 1 0 9123 1608 1 0 9129 1609 2 1 9143 1632 10 1 7835 1642 1 0",
   "464 1643 2 1 48 1645 1 0 454 1646 1 0 8915 1647 1 0 9039 1649 1 0 8904 1650 1 0 8903 1651 1 0",
   "8907 1657 2 1 8935 1659 1 0 8917 1660 2 1 8937 1662 1 0 8918 1663 1 0 8939 1664 1 0 8919 1665",
   "2 1 8955 1667 2 1 8944 1669 1 0 8957 1670 1 0 8946 1671 1 0 8948 1672 6 1 8966 1678 3 1 8973",
   "1681 9 1 8981 1690 3 1 9000 1693 1 0 9011 1694 1 0 9013 1695 1 0 9017 1696 1 0 9021 1697 2 1",
   "9029 1699 2 1 9032 1701 2 1 9035 1703 1 0 9041 1704 1 0 9043 1705 4 1 9047 1709 2 1 9082 1711",
   "1 0 9086 1712 5 1 9088 1717 4 1 9100 1721 1 0 9119 1722 1 0 9114 1723 3 1 9116 1726 1 0 9124",
   "1727 1 0 8947 1729 1 0 9125 1731 1 0 9126 1732 8 1 9130 1740 3 1 9145 1743 1 0 9139 1744 2 1",
   "9148 1746 1 0 9158 1748 1 0 135 1749 1 0 9128 1758 1 0 865 1769 1 0 866 1774 1 0 8976 1775 1 0",
   "8990 1776 10 1 7835 1786 1 0 9003 1787 1 0 9014 1788 1 0 9023 1791 1 0 9127 1792 1 0 212 1793",
   "2 1 136 1795 6 1 71 1801 1 0 121 1802 4 1 527 1808 1 0 9161 1810 2 1 9162 1813 1 0 9165 1814 1",
   "0 9164 1815 3 1 9166 1818 2 1 9170 1821 3 1 9172 1824 4 1 9176 1829 2 1 9180 1832 5 1 9183",
   "1869 1 0 9169 1870 1 0 9175 1871 1 0 9182 1872 6 1 8920 1878 1 0 8927 1879 2 1 8958 1881 2 1",
   "8977 1883 1 0 8991 1884 1 0 9004 1885 3 1 9024 1888 2 1 9037 1890 1 0 9093 1891 2 1 9096 1893",
   "2 1 9110 1895 3 1 9120 1898 1 0 9104 1899 2 1 8992 1901 1 0 9005 1902 2 1 8960 1904 1 0 9006",
   "1905 1 0 8994 1906 1 0 8962 1907 2 1 8908 1909 3 1 9154 1912 2 1 9140 1914 2 1 9159 1916 1 0",
   "8963 1917 2 1 9007 1919 1 0 9051 1920 1 0 9224 1921 3 1 9227 1924 4 1 9231 1928 1 0 9237 1929",
   "3 1 9239 1932 1 0 9243 1933 2 1 9247 1935 2 1 9250 1937 7 1 9255 1944 1 0 9244 1945 2 1 9225",
   "1947 1 0 9242 1948 1 0 9230 1949 3 1 9252 1952 2 1 9245 1954 2 1 9235 1956 1 0 9249 1957 1 0",
   "9238 1958 11 1 9263 1969 1 0 9262 1984 10 1 7835 1994 30 1 9274 2036 2 1 9304 2038 1 0 904",
   "2039 1 0 213 2040 1 0 50 2041 1 0 111 2046 2 1 7291 2048 24 1 8874 2074 2 1 8898 2096 15 1 77",
   "2112 25 1 9199 2142 1 0 531 2144 11 1 9188 2160 24 1 9052 2184 1 0 905 2185 6 1 9076 2208 1 0",
   "8926 2209 1 0 8929 2210 1 0 8949 2211 1 0 9018 2212 1 0 9034 2213 1 0 9045 2214 1 0 9105 2215",
   "1 0 9112 2216 2 1 8911 2218 1 0 8995 2219 1 0 9142 2220 1 0 8913 2222 1 0 8972 2223 1 0 9012",
   "2224 1 0 9087 2225 1 0 9138 2226 1 0 8996 2227 1 0 9027 2228 2 1 9084 2230 2 1 8930 2232 1 0",
   "8940 2233 1 0 8997 2234 1 0 9157 2235 1 0 9031 2236 1 0 9042 2237 1 0 9115 2238 1 0 8928 2239",
   "2 1 8941 2241 1 0 8950 2242 1 0 9098 2243 1 0 9022 2244 1 0 9044 2245 2 1 8951 2247 3 1 9106",
   "2308 3 1 9847 2311 5 1 9855 2316 1 0 9861 2317 4 1 9863 2321 7 1 9868 2328 5 1 9876 2333 4 1",
   "9883 2337 1 0 9888 2338 7 1 9890 2346 3 1 9897 2349 3 1 9901 2352 1 0 9905 2354 2 1 9906 2357",
   "5 1 9908 2362 2 1 9921 2365 1 0 9913 2366 1 0 9920 2367 6 1 9926 2373 1 0 9934 2374 2 1 9936",
   "2376 1 0 9939 2377 5 1 9941 2382 1 0 9938 2383 1 0 9923 2384 1 0 9844 2389 1 0 9935 2390 2 1",
   "9924 2400 1 0 9860 2401 1 0 9862 2402 2 1 9932 2404 2 1 157 2406 10 1 7835 2416 1 0 547 2417 1",
   "0 7256 2418 1 0 9846 2419 5 1 9850 2424 1 0 9887 2425 1 0 9881 2426 1 0 9904 2427 1 0 9875",
   "2428 1 0 9882 2429 1 0 9914 2430 1 0 9889 2431 1 0 9900 2432 1 0 9946 2437 7 1 9947 2444 1 0",
   "9955 2447 2 1 9957 2451 22 1 9959 2474 7 1 9981 2482 1 0 9989 2486 4 1 9991 2493 8 1 9995 2503",
   "2 1 10005 2509 1 0 10009 2519 1 0 10010 2528 1 0 9954 2529 1 0 9956 2530 2 1 10003 2534 10 1",
   "7835 2544 1 0 9988 2545 1 0 9990 2546 2 1 7293 2548 6 1 7340 2554 1 0 906 2555 1 0 7295 2556 1",
   "0 10011 2557 1 0 552 2565 2 1 10017 2567 2 1 10022 2569 2 1 10014 2575 1 0 10024 2576 1 0",
   "10019 2579 1 0 10016 2580 1 0 10020 2581 20 1 10028 2602 6 1 10048 2608 1 0 10055 2610 1 0",
   "10056 2613 1 0 10057 2616 2 1 10025 2622 5 1 10059 2631 2 1 10064 2635 3 1 10066 2641 1 0",
   "10027 2652 1 0 10058 2662 10 1 7835 2674 1 0 10021 2675 1 0 10013 2676 1 0 10012 2677 1 0",
   "10054 2678 1 0 553 2693 7 1 10070 2700 1 0 10078 2701 1 0 10080 2703 3 1 10081 2707 10 1 10084",
   "2717 12 1 10095 2730 7 1 10107 2738 1 0 10114 2739 1 0 10120 2741 5 1 10115 2749 8 1 10121",
   "2757 1 0 10131 2759 3 1 10132 2763 3 1 10135 2768 1 0 10069 2784 1 0 10077 2785 1 0 10079 2786",
   "2 1 10129 2790 10 1 7835 2800 1 0 554 2801 1 0 7296 2809 1 0 10094 2821 7 1 10138 2828 1 0",
   "10146 2831 2 1 10148 2835 22 1 10150 2858 6 1 10172 2864 1 0 10179 2866 2 1 10180 2869 1 0",
   "10182 2870 4 1 10184 2877 8 1 10188 2887 1 0 10198 2893 1 0 10202 2902 2 1 10203 2911 1 0",
   "10178 2912 1 0 10145 2913 1 0 10147 2914 2 1 10196 2918 10 1 7835 2928 1 0 907 2929 1 0 10183",
   "2930 6 1 7346 2947 1 0 10218 2949 6 1 10206 2958 3 1 10212 2962 2 1 10215 2965 1 0 10219 2969",
   "2 1 10220 2972 1 0 10237 2974 2 1 10222 2979 2 1 10224 2984 1 0 10226 2985 1 0 10236 2986 1 0",
   "10227 2990 3 1 10228 2993 1 0 10235 2994 1 0 10231 2995 1 0 10234 2996 1 0 10233 2997 1 0",
   "10232 2998 4 1 10238 3006 5 1 10242 3014 3 1 10247 3021 1 0 10253 3024 1 0 10205 3031 1 0",
   "10254 3046 10 1 7835 3056 3 1 7358 3059 6 1 908 3065 1 0 7298 3066 1 0 914 3077 7 1 10255 3084",
   "1 0 10263 3086 3 1 10265 3090 9 1 10268 3099 2 1 10278 3101 12 1 10281 3114 9 1 10293 3123 2 1",
   "10307 3125 5 1 10302 3133 8 1 10311 3142 2 1 10321 3146 4 1 10324 3157 2 1 10328 3160 1 0",
   "10277 3161 1 0 10280 3162 1 0 10309 3165 1 0 10310 3168 1 0 10262 3169 1 0 10264 3170 2 1",
   "10319 3174 10 1 7835 3191 1 0 555 3192 4 1 7835 3196 3 1 7836 3199 1 0 940 3200 1 0 10386 3204",
   "1 0 556 3205 7 1 10330 3212 1 0 10338 3214 3 1 10340 3218 23 1 10343 3242 9 1 10366 3251 1 0",
   "10380 3253 5 1 10375 3261 1 0 10382 3262 2 1 10387 3265 4 1 10390 3270 1 0 10396 3276 2 1",
   "10401 3285 2 1 10403 3293 1 0 10405 3294 1 0 10381 3296 1 0 10337 3297 1 0 10339 3298 2 1",
   "10394 3302 10 1 7835 3313 3 1 10383 3332 1 0 10462 3333 4 1 10406 3337 3 1 10411 3340 1 0",
   "10415 3342 3 1 10417 3346 31 1 10420 3377 1 0 10459 3378 1 0 10451 3379 2 1 10457 3381 5 1",
   "10452 3386 1 0 10460 3389 1 0 10461 3390 7 1 10463 3398 3 1 10472 3405 1 0 10479 3407 1 0 941",
   "3415 1 0 10478 3416 7 1 7382 3423 1 0 10410 3424 1 0 10414 3425 1 0 10416 3426 2 1 10470 3430",
   "10 1 7835 3440 9 1 7389 3449 1 0 942 3461 18 1 10480 3482 24 1 10498 3507 9 1 10522 3517 1 0",
   "10531 3520 7 1 10532 3530 1 0 10556 3535 6 1 10539 3542 1 0 10545 3544 1 0 10546 3545 1 0",
   "10550 3547 1 0 10552 3551 1 0 10548 3558 10 1 7835 3570 1 0 10547 3571 1 0 10549 3572 1 0 557",
   "3585 58 1 11976 3647 1 0 7303 3648 6 1 12034 3654 1 0 7257 3663 1 0 558 3664 10 1 7835 3674 2",
   "1 559 3713 2 1 12041 3716 1 0 12043 3718 4 1 12044 3722 1 0 12049 3724 1 0 12050 3725 1 0",
   "12053 3726 1 0 12051 3727 21 1 12054 3749 1 0 12075 3751 3 1 12076 3754 1 0 12048 3755 19 1",
   "12079 3776 5 1 12098 3782 1 0 7258 3790 1 0 7259 3792 10 1 7835 3806 1 0 12040 3807 1 0 12052",
   "3841 3 1 950 3844 7 1 563 3851 1 0 572 3853 6 1 573 3859 1 0 953 3860 1 0 99 3861 3 1 954 3866",
   "6 1 957 3872 10 1 7835 3892 1 0 963 3894 1 0 964 3896 1 0 965 3898 4 1 336 3904 1 0 12170 3905",
   "1 0 12173 3906 1 0 12175 3908 1 0 12177 3909 1 0 12179 3910 1 0 12181 3911 1 0 12183 3913 1 0",
   "12185 3914 1 0 12187 3915 1 0 12189 3916 1 0 12191 3918 1 0 12193 3919 1 0 12195 3920 1 0",
   "12197 3921 1 0 12199 3923 1 0 12201 3924 1 0 12203 3925 1 0 12205 3926 1 0 12207 3928 1 0",
   "12209 3929 1 0 12211 3930 1 0 12213 3931 1 0 12215 3933 1 0 12217 3934 1 0 12219 3935 1 0",
   "12221 3936 1 0 12223 3937 1 0 12225 3938 1 0 12227 3939 1 0 12230 3940 1 0 12232 3941 1 0",
   "12234 3942 1 0 12236 3943 1 0 12238 3944 1 0 12240 3947 1 0 12172 3948 1 0 12229 3953 2 1",
   "12250 3956 1 0 12255 3959 1 0 12258 3961 5 1 12260 3968 1 0 12253 3972 1 0 12265 3973 1 0 579",
   "3976 1 0 12242 3977 1 0 12244 3978 2 1 12248 3980 1 0 12246 3981 1 0 12243 3982 1 0 12245 3983",
   "1 0 12247 3984 1 0 12171 3985 1 0 12174 3986 1 0 12176 3988 1 0 12178 3989 1 0 12180 3990 1 0",
   "12182 3991 1 0 12184 3993 1 0 12186 3994 1 0 12188 3995 1 0 12190 3996 1 0 12192 3998 1 0",
   "12194 3999 1 0 12196 4000 1 0 12198 4001 1 0 12200 4003 1 0 12202 4004 1 0 12204 4005 1 0",
   "12206 4006 1 0 12208 4008 1 0 12210 4009 1 0 12212 4010 1 0 12214 4011 1 0 12216 4013 1 0",
   "12218 4014 1 0 12220 4015 1 0 12222 4016 1 0 12224 4017 1 0 12226 4018 1 0 12228 4019 1 0",
   "12231 4020 1 0 12233 4021 1 0 12235 4022 1 0 12237 4023 1 0 12239 4024 1 0 12241 4030 8 1 966",
   "4039 6 1 974 4046 2 1 980 4048 2 1 570 4050 3 1 580 4053 4 1 982 4057 2 1 583 4096 1 0 12832",
   "4097 1 0 12834 4098 1 0 12836 4099 1 0 12840 4100 1 0 12843 4101 1 0 12845 4102 1 0 12848 4103",
   "1 0 12852 4104 1 0 12857 4105 1 0 12864 4106 2 1 12868 4108 1 0 12871 4109 1 0 12873 4110 1 0",
   "12876 4111 1 0 12879 4112 3 1 12883 4115 1 0 12888 4116 1 0 12891 4117 2 1 12895 4119 1 0",
   "12902 4120 1 0 12905 4121 1 0 12908 4122 1 0 12910 4123 1 0 12912 4124 1 0 12916 4125 1 0",
   "12918 4126 1 0 12925 4127 1 0 12927 4128 1 0 12933 4129 5 1 12940 4135 4 1 12950 4140 1 0",
   "12954 4141 1 0 12958 4142 1 0 12960 4143 1 0 12962 4144 1 0 12965 4145 1 0 12970 4146 1 0",
   "12974 4147 1 0 12961 4148 1 0 12976 4149 1 0 12972 4153 2 1 12982 4155 1 0 12911 4156 1 0",
   "12915 4157 1 0 12919 4158 1 0 12930 4160 10 1 7835 4170 2 1 168 4172 4 1 616 4176 2 1 12922",
   "4178 4 1 12946 4182 4 1 12966 4186 1 0 12844 4187 1 0 12858 4188 2 1 12935 4190 1 0 12894 4191",
   "1 0 12909 4192 1 0 12917 4193 1 0 12862 4194 1 0 12977 4195 2 1 12984 4197 1 0 12924 4198 1 0",
   "12939 4199 2 1 12978 4201 5 1 12986 4206 1 0 12880 4207 2 1 12937 4209 1 0 12959 4210 1 0",
   "12956 4211 2 1 12963 4213 1 0 12833 4214 1 0 12835 4215 1 0 12837 4216 1 0 12846 4217 1 0",
   "12855 4218 1 0 12865 4219 1 0 12886 4220 1 0 12892 4221 2 1 12897 4223 1 0 12903 4224 1 0",
   "12921 4225 1 0 12928 4226 1 0 12920 4227 1 0 12955 4228 1 0 12971 4229 1 0 12973 4230 1 0",
   "12981 4231 1 0 12991 4232 1 0 12993 4233 2 1 12996 4235 1 0 12992 4236 2 1 12994 4238 1 0",
   "12900 4239 1 0 12998 4240 10 1 7835 4250 2 1 12999 4252 1 0 12957 4253 1 0 12975 4254 2 1 988",
   "4304 1 0 8703 4305 1 0 8705 4306 1 0 8707 4307 1 0 8709 4308 1 0 8711 4309 1 0 8713 4310 1 0",
   "8715 4311 1 0 8719 4312 1 0 8721 4313 1 0 8723 4314 1 0 8725 4315 1 0 8727 4316 1 0 8729 4317",
   "1 0 8733 4318 1 0 8735 4319 1 0 8737 4320 1 0 8739 4321 1 0 8741 4322 1 0 8743 4323 1 0 8747",
   "4324 1 0 8749 4325 1 0 8751 4326 1 0 8753 4327 1 0 8755 4328 1 0 8757 4329 1 0 8759 4330 1 0",
   "8761 4331 1 0 8763 4332 1 0 8765 4333 1 0 8767 4334 1 0 8769 4335 1 0 8773 4336 1 0 8775 4337",
   "1 0 8717 4338 1 0 8731 4339 1 0 8745 4340 1 0 8771 4341 1 0 8777 4342 2 1 8779 4344 3 1 8782",
   "4347 1 0 214 4349 1 0 8785 4350 2 1 8787 4352 95 1 15991 4447 73 1 16115 4520 88 1 16211 4608",
   "16 1 9363 4624 16 1 9380 4640 16 1 9401 4656 8 1 9418 4664 8 1 9433 4672 9 1 9442 4682 4 1",
   "9451 4688 7 1 9455 4696 1 0 9462 4698 4 1 9463 4704 8 1 9467 4712 16 1 9480 4728 8 1 9497 4736",
   "9 1 9506 4746 4 1 9515 4752 8 1 9519 4760 8 1 9528 4768 8 1 9537 4776 9 1 9546 4786 4 1 9555",
   "4792 7 1 9559 4800 1 0 9566 4802 4 1 9567 4808 15 1 9571 4824 8 1 9586 4832 24 1 9601 4856 8 1",
   "9632 4864 8 1 9641 4872 9 1 9650 4882 4 1 9659 4888 8 1 9663 4896 8 1 9675 4904 8 1 9684 4912",
   "8 1 9700 4920 8 1 9709 4928 16 1 9752 4944 8 1 9772 4952 3 1 9785 4960 1 0 215 4961 1 0 92",
   "4962 1 0 138 4963 4 1 93 4967 1 0 122 4968 1 0 216 4969 9 1 7836 4978 11 1 7398 4992 4 1 9396",
   "4996 4 1 9475 5000 4 1 9768 5004 4 1 9780 5008 10 1 808 5112 6 1 13856 5120 1 0 16 5121 379 1",
   "13898 5500 1 0 14327 5501 1 0 14277 5502 16 1 14279 5518 8 1 14296 5526 17 1 14310 5543 198 1",
   "14328 5741 1 0 986 5742 1 0 141 5743 1 0 14278 5744 1 0 14295 5745 6 1 14304 5751 9 1 14526",
   "5761 26 1 14621 5787 2 1 340 5792 1 0 14647 5794 1 0 14648 5795 1 0 14684 5798 1 0 14649 5800",
   "1 0 14650 5802 1 0 14680 5803 1 0 14682 5807 4 1 14652 5815 1 0 14657 5816 1 0 14687 5817 2 1",
   "14658 5822 1 0 14660 5825 1 0 14661 5827 1 0 14663 5829 1 0 14664 5831 4 1 14665 5839 1 0",
   "14670 5842 1 0 14671 5846 1 0 14672 5847 1 0 14674 5850 1 0 14675 5852 1 0 14676 5854 2 1",
   "14677 5856 1 0 14685 5857 2 1 14689 5859 1 0 14686 5860 1 0 14688 5861 2 1 14691 5867 3 1 103",
   "5873 1 0 14656 5874 1 0 14669 5875 1 0 14679 5876 1 0 14651 5877 1 0 14662 5878 1 0 14673 5879",
   "1 0 14681 5880 1 0 14683 5888 22 1 12599 5919 22 1 12621 5941 2 1 165 5952 20 1 12643 5984 13",
   "1 12663 5998 3 1 12676 6002 2 1 12679 6016 35 1 13097 6051 17 1 13133 6070 16 1 13150 6098 1 0",
   "13166 6100 2 1 170 6102 1 0 100 6103 1 0 7260 6104 3 1 620 6107 1 0 7304 6108 1 0 13132 6112",
   "10 1 7835 6128 10 1 7835 6144 1 0 532 6145 1 0 134 6146 1 0 51 6147 1 0 139 6148 2 1 97 6150 2",
   "1 20 6152 1 0 52 6153 1 0 140 6160 10 1 7835 6176 1 0 13616 6177 1 0 13618 6178 1 0 13621 6179",
   "1 0 13627 6180 1 0 13629 6181 1 0 13632 6182 1 0 13634 6183 3 1 13637 6186 1 0 13644 6187 1 0",
   "13646 6188 1 0 13649 6189 1 0 13651 6190 1 0 13656 6191 3 1 13658 6194 1 0 13667 6195 1 0",
   "13670 6196 1 0 13673 6197 1 0 13679 6198 1 0 13683 6199 1 0 13686 6200 1 0 13688 6201 1 0",
   "13690 6202 1 0 13693 6203 2 1 13698 6205 1 0 13702 6206 1 0 13706 6207 4 1 13709 6211 1 0",
   "13615 6212 1 0 13619 6213 1 0 13622 6214 1 0 13628 6215 1 0 13630 6216 1 0 13633 6217 1 0",
   "13635 6218 1 0 13640 6219 1 0 13645 6220 1 0 13647 6221 1 0 13650 6222 1 0 13652 6223 1 0",
   "13657 6224 1 0 13668 6225 1 0 13671 6226 1 0 13674 6227 1 0 13680 6228 1 0 13700 6229 1 0",
   "13684 6230 1 0 13689 6231 1 0 13694 6232 1 0 13704 6233 1 0 13707 6234 2 1 13713 6236 1 0",
   "13677 6237 1 0 13620 6238 1 0 13623 6239 1 0 13626 6240 1 0 13636 6241 1 0 13631 6242 1 0",
   "13641 6243 1 0 13695 6244 1 0 13653 6245 1 0 13655 6246 1 0 13648 6247 1 0 13661 6248 1 0",
   "13669 6249 1 0 13672 6250 1 0 13681 6251 1 0 13691 6252 1 0 13705 6253 1 0 13708 6254 1 0",
   "13701 6255 1 0 13703 6256 1 0 13715 6257 1 0 13675 6258 1 0 13685 6259 1 0 13624 6260 1 0",
   "13696 6261 1 0 13687 6262 1 0 13692 6263 1 0 13682 6264 1 0 13676 6272 7 1 13608 6279 1 0",
   "13617 6280 1 0 13625 6281 1 0 13697 6282 1 0 13642 6283 1 0 13678 6284 1 0 13716 6285 2 1",
   "13718 6287 2 1 13721 6289 1 0 13725 6290 2 1 13727 6292 1 0 13730 6293 1 0 13732 6294 2 1",
   "13734 6296 1 0 13723 6297 1 0 13733 6298 1 0 13654 6299 1 0 13643 6300 2 1 13662 6302 1 0",
   "13717 6303 1 0 13720 6304 1 0 13724 6305 1 0 13726 6306 1 0 13664 6307 1 0 13731 6308 2 1",
   "13665 6310 2 1 13736 6312 1 0 13729 6313 1 0 13739 6314 1 0 13738 6320 70 1 14535 6400 29 1",
   "12549 6432 12 1 12578 6448 9 1 12590 6464 1 0 987 6468 1 0 112 6469 1 0 123 6470 10 1 7835",
   "6480 30 1 13167 6512 5 1 13197 6528 44 1 13202 6576 26 1 13246 6608 10 1 7835 6618 1 0 7836",
   "6624 32 1 994 6656 28 1 12681 6686 2 1 217 6688 45 1 13272 6733 6 1 13325 6739 1 0 13317 6741",
   "3 1 13319 6748 3 1 13322 6752 1 0 13348 6753 1 0 13331 6754 2 1 13333 6757 6 1 13335 6763 1 0",
   "13318 6764 1 0 13332 6765 1 0 13347 6766 2 1 13341 6768 3 1 13344 6771 1 0 13343 6784 10 1",
   "7835 6800 10 1 7835 6816 7 1 623 6823 1 0 7261 6824 4 1 172 6828 2 1 630 6917 1 0 13418 6919 1",
   "0 13420 6921 1 0 13422 6923 1 0 13424 6925 1 0 13426 6927 3 1 13428 6931 1 0 13432 6932 15 1",
   "13435 6947 5 1 13451 6952 8 1 13457 6960 3 1 13466 6963 1 0 13533 6965 6 1 13534 6972 1 0",
   "13541 6974 2 1 13543 6978 1 0 13547 6980 1 0 13549 6981 2 1 13433 6983 1 0 13450 6984 1 0",
   "13456 6985 1 0 13465 6986 2 1 13469 6988 1 0 13532 6992 10 1 7835 7002 2 1 219 7004 1 0 142",
   "7005 1 0 101 7006 2 1 176 7008 1 0 17 7009 10 1 1026 7028 9 1 1036 7037 2 1 18 7043 8 1 11749",
   "7051 14 1 11758 7065 1 0 11773 7066 1 0 11775 7067 1 0 11777 7068 1 0 11780 7069 1 0 11783",
   "7070 2 1 11785 7072 1 0 11788 7073 1 0 11776 7074 1 0 11778 7075 1 0 11781 7076 8 1 11789 7084",
   "1 0 11774 7085 1 0 11784 7086 1 0 11757 7087 1 0 11787 7088 10 1 7835 7099 1 0 11779 7100 1 0",
   "11782 7101 1 0 11772 7104 1 0 12732 7106 1 0 12733 7109 1 0 12734 7111 1 0 12735 7113 1 0",
   "12736 7115 1 0 12737 7118 1 0 12738 7120 3 1 12739 7124 1 0 12742 7126 1 0 12743 7128 1 0",
   "12744 7131 1 0 12745 7133 2 1 12746 7136 6 1 12748 7143 1 0 12754 7145 2 1 12755 7148 1 0",
   "12757 7150 1 0 12758 7152 4 1 12759 7164 4 1 643 7168 10 1 12439 7178 17 1 12452 7195 1 0",
   "12470 7196 8 1 12472 7204 1 0 12469 7205 1 0 12471 7206 16 1 12481 7222 1 0 12480 7227 2 1 161",
   "7229 3 1 613 7232 10 1 7835 7245 3 1 12449 7248 10 1 7835 7258 36 1 13740 7294 2 1 210 7360 8",
   "1 632 7401 1 0 9915 7413 2 1 9916 7424 1 0 7846 7425 2 1 7850 7427 1 0 7863 7428 1 0 7871 7429",
   "2 1 7880 7431 1 0 7893 7432 1 0 7910 7433 1 0 7953 7434 1 0 7962 7435 1 0 7968 7436 1 0 7979",
   "7437 1 0 7998 7438 1 0 8009 7439 1 0 8022 7440 1 0 8035 7441 1 0 8023 7442 1 0 8036 7443 1 0",
   "8032 7444 1 0 8026 7445 1 0 8049 7446 2 1 8041 7448 1 0 8051 7449 1 0 8074 7450 1 0 8078 7451",
   "1 0 8121 7452 1 0 8132 7453 2 1 8134 7455 1 0 8152 7456 1 0 8157 7457 1 0 8235 7458 1 0 8294",
   "7459 1 0 8305 7460 2 1 8341 7462 1 0 8358 7463 1 0 8372 7464 1 0 8378 7465 1 0 8383 7466 1 0",
   "8394 7467 1 0 8510 7471 1 0 7862 7483 1 0 8008 7531 1 0 8136 7532 1 0 7864 7533 1 0 7883 7534",
   "1 0 7919 7535 1 0 7999 7536 1 0 8010 7537 1 0 8054 7538 1 0 8076 7539 1 0 8087 7540 1 0 8107",
   "7541 1 0 8124 7542 1 0 8296 7543 1 0 7932 7547 1 0 7955 7548 1 0 7959 7549 1 0 8052 7550 1 0",
   "8142 7551 1 0 8155 7552 1 0 7866 7553 1 0 7884 7554 1 0 7920 7555 1 0 7929 7556 1 0 7969 7557",
   "1 0 7988 7558 1 0 8000 7559 1 0 8014 7560 1 0 8055 7561 1 0 8080 7562 1 0 8108 7563 1 0 8115",
   "7564 1 0 8159 7565 1 0 8240 7566 1 0 8297 7567 1 0 7848 7568 1 0 7856 7569 1 0 7887 7570 1 0",
   "7897 7571 1 0 7905 7572 1 0 7909 7573 1 0 7903 7574 1 0 7956 7575 1 0 8038 7576 1 0 8118 7577",
   "1 0 8143 7578 1 0 8307 7836 2 1 8111 7839 1 0 7891 7932 2 2 8163 7934 2 2 8252 8125 1 0 750",
   "8127 1 0 750 8128 1 0 752 8190 1 0 751 8208 1 0 22 8210 4 1 23 8214 1 0 438 8215 1 0 13 8216 4",
   "1 305 8220 4 1 312 8224 2 1 469 8226 2 1 475 8231 1 0 477 8232 2 1 8 8240 1 0 465 8241 1 0 467",
   "8242 1 0 481 8245 1 0 482 8248 1 0 485 8249 2 1 309 8251 1 0 486 8253 1 0 131 8254 1 0 11 8255",
   "1 0 487 8256 1 0 489 8257 2 1 491 8259 1 0 478 8260 1 0 1209 8261 2 1 342 8266 1 0 460 8267 1",
   "0 447 8268 2 1 479 8270 1 0 452 8271 1 0 64 8272 1 0 490 8273 1 0 453 8274 1 0 1205 8275 1 0",
   "29 8276 1 0 488 8277 2 1 273 8280 7 1 275 8352 26 1 7306 8378 7 1 7333 8452 1 0 1049 8456 1 0",
   "1050 8468 1 0 1051 8471 2 1 1052 8478 2 1 1054 8483 1 0 1056 8485 1 0 1057 8487 1 0 1058 8489",
   "1 0 1059 8494 1 0 1060 8506 1 0 1061 8513 4 1 1062 8522 1 0 1066 8523 1 0 1348 8524 1 0 1067",
   "8526 1 0 7922 8527 1 0 1068 8576 3 1 7409 8579 2 2 7877 8581 1 0 7841 8582 3 1 7412 8586 2 1",
   "1069 8592 1 0 1071 8593 1 0 1073 8594 1 0 1072 8595 7 1 1074 8604 18 1 1081 8623 30 1 1099",
   "8656 52 1 1129 8709 4 1 1181 8714 2 1 1185 8717 1 0 1187 8718 4 1 1189 8722 1 0 1204 8723 3 1",
   "1206 8726 6 1 1210 8732 1 0 1217 8733 7 1 1219 8741 1 0 1226 8743 5 1 1227 8750 1 0 1232 8753",
   "16 1 1233 8770 2 1 1249 8773 2 1 1251 8776 1 0 1253 8778 22 1 1254 8801 1 0 1276 8803 10 1",
   "1277 8818 2 1 1287 8822 2 1 1289 8826 6 1 1291 8834 2 1 1297 8838 2 1 1299 8842 34 1 1301 8880",
   "13 1 1335 8893 35 1 1349 8932 6 1 1384 8942 26 1 1390 8968 4 1 344 8972 29 1 1416 9003 252 1",
   "1445 9280 11 1 1697 9472 256 1 1708 9728 48 1 2166 9776 8 1 3633 9784 53 1 2214 9837 3 1 4228",
   "9840 26 1 2267 9866 6 1 3627 9872 112 1 2293 9984 33 1 2431 10017 71 1 2466 10088 14 1 384",
   "10132 49 1 2537 10181 2 1 372 10183 31 1 2586 10214 10 1 374 10224 16 1 2617 10240 256 1 3371",
   "10496 131 1 2633 10627 22 1 350 10649 63 1 2764 10712 4 1 440 10716 32 1 2827 10748 2 1 348",
   "10750 14 1 2859 10765 103 1 2873 10871 101 1 2976 10973 151 1 3077 11126 32 1 3228 11159 105 1",
   "3260 11312 48 1 8617 11360 2 2 7982 11365 1 0 7847 11366 1 0 8123 11367 2 2 7941 11369 2 2",
   "7971 11371 2 2 8302 11377 1 0 8161 11378 2 2 8237 11380 1 0 8162 11381 2 2 7942 11383 1 0 8061",
   "11384 1 0 7899 11385 1 0 8082 11386 1 0 8043 11387 1 0 7901 11392 10 2 8400 11402 12 2 8406",
   "11414 6 2 8413 11420 22 2 8418 11442 4 2 8455 11446 2 2 8405 11448 2 2 8412 11450 4 2 8416",
   "11454 4 2 8429 11458 6 2 8433 11464 2 2 8439 11466 12 2 8441 11478 2 2 8449 11480 6 2 8451",
   "11486 6 2 8457 11493 6 1 3365 11499 2 2 8432 11501 2 2 8448 11506 2 2 8438 11513 1 0 143 11514",
   "2 1 124 11516 1 0 287 11517 1 0 7437 11518 1 0 144 11519 1 0 288 11520 1 0 8704 11521 1 0 8706",
   "11522 1 0 8708 11523 1 0 8710 11524 1 0 8712 11525 1 0 8714 11526 1 0 8716 11527 1 0 8720",
   "11528 1 0 8722 11529 1 0 8724 11530 1 0 8726 11531 1 0 8728 11532 1 0 8730 11533 1 0 8734",
   "11534 1 0 8736 11535 1 0 8738 11536 1 0 8740 11537 1 0 8742 11538 1 0 8744 11539 1 0 8748",
   "11540 1 0 8750 11541 1 0 8752 11542 1 0 8754 11543 1 0 8756 11544 1 0 8758 11545 1 0 8760",
   "11546 1 0 8762 11547 1 0 8764 11548 1 0 8766 11549 1 0 8768 11550 1 0 8770 11551 1 0 8774",
   "11552 1 0 8776 11553 1 0 8718 11554 1 0 8732 11555 1 0 8746 11556 1 0 8772 11557 1 0 8778",
   "11559 1 0 8781 11565 1 0 8786 11568 12 1 9306 11580 24 1 9319 11604 18 1 9344 11622 1 0 9318",
   "11623 1 0 9343 11631 1 0 9362 11632 1 0 640 11648 1 0 9379 11649 1 0 9400 11650 1 0 9417 11651",
   "1 0 9426 11652 1 0 9441 11653 1 0 9479 11654 1 0 9496 11655 1 0 9505 11656 1 0 9527 11657 1 0",
   "9536 11658 1 0 9545 11659 1 0 9594 11660 1 0 9625 11661 1 0 9640 11662 1 0 9649 11663 1 0 9683",
   "11664 1 0 9692 11665 1 0 9708 11666 1 0 9784 11667 4 1 9671 11680 7 1 9788 11688 7 1 9795",
   "11696 7 1 9802 11704 7 1 9809 11712 7 1 9816 11720 7 1 9823 11728 7 1 9830 11736 7 1 9837",
   "11776 2 1 493 11778 4 1 398 11782 3 1 495 11785 2 1 402 11787 1 0 498 11788 2 1 404 11790 9 1",
   "499 11799 1 0 31 11800 1 0 132 11801 1 0 289 11802 2 1 508 11804 2 1 406 11806 2 1 510 11808",
   "10 1 408 11818 4 1 282 11822 1 0 118 11823 1 0 8586 11824 1 0 145 11825 1 0 155 11826 1 0 40",
   "11827 1 0 156 11828 1 0 39 11829 1 0 65 11830 3 1 471 11833 1 0 445 11834 2 1 27 11836 1 0 146",
   "11837 1 0 286 11838 1 0 439 11839 1 0 449 11840 1 0 32 11841 1 0 41 11842 1 0 316 11843 1 0 30",
   "11844 5 1 512 11849 1 0 67 11850 1 0 458 11851 1 0 474 11852 1 0 42 11853 1 0 448 11854 2 1 43",
   "11856 2 1 2464 11858 1 0 461 11859 1 0 109 11860 1 0 116 11861 8 1 317 11869 1 0 117 12272 16",
   "1 7190 12289 1 0 57 12290 1 0 153 12291 1 0 483 12292 1 0 7243 12293 1 0 7272 12295 1 0 7835",
   "12296 10 1 418 12306 2 1 7244 12308 8 1 428 12316 1 0 33 12317 3 1 325 12320 1 0 7246 12321 9",
   "1 7836 12336 1 0 34 12337 1 0 7277 12339 1 0 7278 12341 1 0 7279 12343 1 0 7247 12347 1 0 7273",
   "12349 1 0 484 12350 2 1 7248 12443 2 1 753 12445 1 0 7280 12448 1 0 35 12539 1 0 36 12540 2 1",
   "7281 12549 3 1 16700 12552 1 0 16704 12553 3 1 16706 12556 3 1 16710 12559 4 1 16715 12563 7 1",
   "16722 12570 2 1 16732 12572 2 1 16735 12574 7 1 16738 12581 1 0 16746 12582 4 1 16749 12586 1",
   "0 16705 12587 1 0 16713 12588 1 0 16719 12589 1 0 16753 12591 1 0 16709 12688 2 1 7250 12708 1",
   "0 16737 12710 1 0 16734 12716 1 0 16703 12717 1 0 16714 12720 2 1 16747 12722 1 0 16745 12728",
   "3 1 16729 12732 2 1 16720 12734 2 1 16754 12736 36 1 7206 12783 1 0 7242 12927 1 0 7252 19904",
   "64 1 3641 40960 1165 1 16756 42128 55 1 3792 42192 26 1 17927 42218 1 0 17955 42219 1 0 17953",
   "42220 1 0 17956 42221 1 0 17954 42222 10 1 17958 42232 4 1 17921 42236 1 0 17926 42237 1 0",
   "17925 42238 1 0 53 42239 1 0 147 42240 269 1 14779 42509 1 0 54 42510 1 0 148 42511 1 0 126",
   "42528 10 1 7835 42560 2 2 8484 42562 2 2 8487 42564 2 2 8489 42566 2 2 8497 42568 2 2 8500",
   "42570 2 2 8552 42572 2 2 8564 42574 2 2 8585 42576 2 2 8589 42578 2 2 8594 42580 4 2 8597",
   "42584 2 2 8603 42586 2 2 8605 42588 2 2 8607 42590 2 2 8613 42592 2 2 8568 42594 2 2 8474",
   "42596 2 2 8516 42598 2 2 8521 42611 1 0 455 42622 1 0 517 42623 1 0 8587 42624 2 2 8472 42626",
   "2 2 8493 42628 2 2 8481 42630 2 2 8578 42632 2 2 8491 42634 2 2 8547 42636 2 2 8544 42638 2 2",
   "8569 42640 2 2 8571 42642 2 2 8574 42644 2 2 8561 42646 2 2 8583 42656 80 1 15048 42738 1 0",
   "231 42739 1 0 149 42740 1 0 106 42741 1 0 55 42742 1 0 66 42743 1 0 127 42752 34 1 818 42786 2",
   "2 8335 42788 2 2 8343 42790 2 2 7944 42794 6 2 8323 42800 1 0 7916 42801 1 0 8100 42814 2 2",
   "7878 42816 6 2 7972 42822 2 2 7978 42824 2 2 7980 42826 2 2 8045 42828 2 2 8040 42832 2 2 8053",
   "42834 4 2 8057 42838 4 2 8064 42842 2 2 8073 42844 2 2 8098 42846 2 2 8158 42850 2 2 8303",
   "42852 4 2 8311 42856 2 2 8314 42858 6 2 8318 42865 1 0 7890 42866 1 0 7992 42867 1 0 8005",
   "42868 1 0 8018 42869 2 1 8096 42871 1 0 8129 42872 1 0 8321 42878 2 2 7933 42880 2 2 7994",
   "42888 3 1 852 42891 2 2 8336 42894 1 0 7990 42895 1 0 8337 42896 2 2 8013 42898 2 2 7873 42900",
   "1 0 7874 42901 1 0 7939 42902 2 2 7865 42904 2 2 7918 42927 1 0 8063 42932 2 2 7869 42934 2 2",
   "8047 42936 2 2 8141 42938 2 2 7849 42940 2 2 7957 42942 4 2 8145 42946 2 2 8236 42951 2 2 7882",
   "42953 2 2 8101 42960 2 2 8102 42963 1 0 8103 42965 1 0 8104 42966 4 2 8105 42997 2 2 7943",
   "42999 1 0 7952 43002 1 0 8151 43003 1 0 7923 43004 1 0 8059 43005 1 0 8003 43006 1 0 7951",
   "43007 1 0 8004 43008 7 1 10620 43015 4 1 10628 43020 28 1 10632 43048 4 1 943 43052 1 0 10627",
   "43056 6 1 7352 43062 2 1 947 43064 1 0 7297 43065 1 0 949 43072 8 1 12497 43080 12 1 12509",
   "43092 4 1 12522 43096 1 0 12528 43097 2 1 12531 43099 2 1 12534 43101 1 0 12538 43102 4 1",
   "12543 43106 4 1 12539 43110 1 0 12547 43111 1 0 12521 43112 1 0 12526 43113 4 1 12505 43117 1",
   "0 12527 43118 1 0 12533 43119 2 1 12536 43121 2 1 12529 43123 1 0 12548 43124 2 1 641 43126 2",
   "1 163 43138 67 1 10660 43214 2 1 159 43216 10 1 7835 43250 1 0 9918 43256 3 1 548 43259 1 0",
   "9919 43260 1 0 551 43261 1 0 9845 43262 1 0 9867 43263 1 0 9940 43264 10 1 7835 43274 33 1",
   "12799 43310 1 0 647 43311 1 0 167 43312 36 1 12763 43359 1 0 232 43360 29 1 16086 43396 39 1",
   "13550 43435 1 0 13590 43437 6 1 13592 43444 1 0 13598 43446 4 1 13600 43450 2 1 13605 43452 1",
   "0 13599 43453 1 0 13604 43454 1 0 13589 43455 1 0 13591 43456 1 0 13607 43457 6 1 221 43463 1",
   "0 102 43464 2 1 178 43466 4 1 227 43471 1 0 7262 43472 10 1 7835 43486 2 1 648 43488 1 0 12841",
   "43489 1 0 12849 43490 1 0 12859 43491 1 0 12881 43492 1 0 12906 43493 1 0 12980 43494 1 0 7263",
   "43495 1 0 12867 43496 1 0 12901 43497 1 0 12839 43498 1 0 12842 43499 1 0 12854 43500 1 0",
   "12861 43501 1 0 12875 43502 1 0 12878 43503 1 0 12882 43504 10 1 7835 43514 1 0 12934 43515 1",
   "0 12887 43516 1 0 12890 43517 1 0 12904 43518 1 0 12907 43520 41 1 13349 43561 10 1 13394",
   "43571 4 1 13390 43584 14 1 13404 43600 10 1 7835 43612 1 0 650 43613 3 1 180 43616 1 0 12838",
   "43617 1 0 12847 43618 1 0 12850 43619 1 0 12853 43620 1 0 12860 43621 1 0 12866 43622 1 0",
   "12870 43623 1 0 12872 43624 1 0 12874 43625 1 0 12877 43626 1 0 12889 43627 1 0 12893 43628 1",
   "0 12926 43629 1 0 12929 43630 1 0 12931 43631 1 0 12899 43632 1 0 7264 43633 1 0 12932 43634 1",
   "0 12856 43635 1 0 12913 43636 3 1 13004 43639 3 1 990 43642 1 0 12914 43643 3 1 13001 43646 1",
   "0 12851 43647 1 0 12863 43648 63 1 12103 43712 1 0 12166 43714 1 0 12167 43739 2 1 12168 43741",
   "1 0 7265 43742 2 1 561 43744 11 1 10585 43755 5 1 10604 43760 1 0 183 43761 1 0 128 43762 1 0",
   "10557 43763 2 1 7266 43765 1 0 10609 43766 1 0 10619 43777 6 1 9427 43785 6 1 9626 43793 6 1",
   "9595 43808 7 1 9693 43816 7 1 9717 43824 1 0 7855 43825 1 0 7852 43826 2 1 7894 43828 1 0 7898",
   "43829 1 0 7917 43830 1 0 7926 43831 1 0 7987 43832 2 1 7984 43834 1 0 8002 43835 1 0 8017",
   "43836 1 0 8020 43837 1 0 8024 43838 1 0 8033 43839 1 0 8037 43840 1 0 8029 43841 2 1 8027",
   "43843 2 1 8030 43845 1 0 8070 43846 1 0 8072 43847 2 1 8089 43849 1 0 8085 43850 3 1 8091",
   "43853 1 0 8114 43854 1 0 8133 43855 1 0 8140 43856 2 1 8137 43858 1 0 8144 43859 3 1 8245",
   "43862 4 1 8241 43866 1 0 8253 43867 1 0 855 43872 2 1 8315 43874 1 0 8039 43875 1 0 8317 43876",
   "1 0 7858 43877 1 0 8396 43880 1 0 8095 43882 2 1 776 43888 80 1 13776 43968 27 1 10558 43995 8",
   "1 10610 44003 8 1 10596 44011 1 0 184 44013 1 0 10618 44016 10 1 7835 55216 23 1 16188 55243",
   "49 1 16299 64434 17 1 870 64830 2 1 436 64832 16 1 887 64975 1 0 903 65020 1 0 7290 65021 3 1",
   "867 65093 2 1 58 65532 1 0 7253 65533 1 0 14680064 65535 1 0 14680065 65536 12 1 19131 65549",
   "26 1 19143 65576 19 1 19169 65596 2 1 19188 65599 15 1 19190 65616 14 1 19205 65664 123 1",
   "19219 65792 3 1 291 65799 9 1 7836 65808 36 1 7444 65847 9 1 3847 65856 2 1 7480 65858 1 0",
   "7836 65859 1 0 7840 65860 4 1 7482 65864 1 0 7840 65865 6 1 7486 65871 1 0 7840 65872 8 1 7492",
   "65880 3 0 7836 65883 4 0 7837 65887 1 0 7840 65888 19 1 7500 65907 1 0 7840 65908 5 1 7519",
   "65913 17 1 3856 65930 1 0 7835 65931 1 0 7524 65932 3 1 3873 65936 13 1 3876 65952 1 0 3889",
   "66000 45 1 3890 66176 29 1 18446 66208 49 1 18475 66273 9 1 7836 66282 18 1 7525 66304 15 1",
   "18550 66319 16 1 18566 66335 1 0 18565 66336 1 0 7836 66337 1 0 7840 66338 2 1 7438 66349 30 1",
   "18582 66384 38 1 8665 66432 30 1 20273 66463 1 0 294 66464 36 1 20303 66504 8 1 20339 66512 1",
   "0 295 66513 2 1 7836 66515 3 1 7543 66600 88 1 18612 66688 30 1 18839 66720 10 1 7835 66776 36",
   "1 13862 66816 40 1 18869 66864 52 1 18909 66927 1 0 651 66967 11 1 18961 66979 15 1 18972",
   "66995 7 1 18987 67003 2 1 18994 67072 311 1 19342 67392 22 1 19653 67424 8 1 19675 67456 1 0",
   "8256 67584 6 1 19683 67592 1 0 19689 67594 44 1 19690 67639 2 1 19734 67644 1 0 19736 67647 1",
   "0 19737 67648 22 1 20011 67671 1 0 233 67672 3 1 7836 67675 5 1 7560 67680 13 1 19946 67694 9",
   "1 19959 67703 2 1 3935 67705 5 1 7836 67710 2 1 7546 67713 1 0 19968 67715 3 1 19969 67719 5 1",
   "19972 67725 1 0 19977 67727 1 0 19978 67729 1 0 19979 67731 1 0 19980 67733 7 1 19981 67741 2",
   "1 19988 67751 4 1 7836 67755 2 1 7839 67757 3 1 7548 67808 19 1 19990 67828 2 1 20009 67835 1",
   "0 7836 67836 1 0 7840 67837 3 1 7551 67840 22 1 8852 67862 1 0 7836 67863 3 1 7557 67866 2 1",
   "7837 67871 1 0 296 67872 26 1 18524 67903 1 0 290 67998 2 1 22584 68000 16 1 22559 68017 7 1",
   "22575 68028 1 0 7808 68029 1 0 7797 68030 2 1 22582 68032 9 1 7836 68041 7 1 7754 68050 36 1",
   "7761 68086 10 1 7798 68096 4 1 11872 68101 2 1 11876 68108 1 0 11878 68112 1 0 11879 68113 3 1",
   "11881 68117 3 1 11884 68121 2 1 11887 68123 1 0 11890 68124 17 1 11892 68141 5 1 11910 68146 1",
   "0 11880 68147 1 0 11891 68148 1 0 11889 68149 1 0 11909 68159 1 0 11915 68160 4 1 7836 68164 5",
   "1 7603 68176 6 1 657 68182 2 1 185 68184 1 0 663 68192 29 1 19835 68221 1 0 7836 68222 1 0",
   "7554 68223 1 0 737 68224 29 1 19864 68253 1 0 7836 68254 2 1 7555 68288 8 1 20114 68297 28 1",
   "20122 68331 1 0 7836 68332 1 0 7840 68333 3 1 7565 68336 7 1 668 68352 46 1 19893 68399 7 1",
   "19939 68409 1 0 667 68410 6 1 234 68416 22 1 20033 68440 4 1 7836 68444 4 1 7568 68448 19 1",
   "20055 68472 4 1 7836 68476 4 1 7572 68480 18 1 20074 68505 4 1 675 68521 4 1 7836 68525 3 1",
   "7576 68608 1 0 14734 68610 2 1 14735 68613 3 1 14737 68617 1 0 14740 68619 1 0 14741 68621 1 0",
   "14742 68623 1 0 14743 68625 1 0 14744 68627 2 1 14745 68630 1 0 14747 68632 1 0 14748 68634 1",
   "0 14749 68636 1 0 14750 68638 1 0 14751 68640 5 1 14752 68646 1 0 14757 68648 1 0 14758 68650",
   "1 0 14759 68652 2 1 14760 68655 4 1 14762 68660 1 0 14766 68662 1 0 14767 68664 1 0 14768",
   "68666 1 0 14769 68668 4 1 14770 68673 1 0 14774 68675 1 0 14775 68677 1 0 14776 68679 2 1",
   "14777 68800 1 0 14693 68802 8 1 14694 68812 5 1 14702 68818 10 1 14707 68829 1 0 14717 68832 3",
   "1 14718 68836 7 1 14721 68844 1 0 14728 68846 5 1 14729 68858 1 0 7836 68859 1 0 7840 68860 4",
   "1 7440 68864 1 0 13007 68865 28 1 13013 68893 5 1 13008 68898 2 1 13041 68912 10 1 7835 69216",
   "9 1 7836 69225 22 1 7415 69248 33 1 20208 69281 8 1 20242 69289 1 0 20251 69293 1 0 37 69296 1",
   "0 20241 69297 1 0 20250 69376 1 0 20150 69378 1 0 20151 69380 2 1 20152 69383 8 1 20154 69393",
   "2 1 20162 69396 2 1 20164 69400 3 1 20166 69405 5 1 7836 69410 5 1 7579 69424 18 1 20169 69442",
   "3 1 20205 69457 1 0 7836 69458 3 1 7584 69461 5 1 240 69488 18 1 20187 69510 4 1 245 69552 21",
   "1 20252 69573 4 1 7836 69577 3 1 7587 69600 22 1 20092 69635 2 1 11844 69637 47 1 11797 69684",
   "19 1 11846 69703 2 1 187 69705 5 1 652 69714 9 1 7836 69723 11 1 7592 69734 10 1 7835 69744 6",
   "1 11865 69759 1 0 11871 69763 23 1 10727 69787 1 0 10750 69789 14 1 10751 69804 14 1 10765",
   "69819 2 1 679 69822 2 1 249 69824 2 1 189 69826 1 0 10779 69840 25 1 18996 69872 10 1 7835",
   "69891 33 1 13043 69924 3 1 13077 69927 7 1 13081 69936 3 1 13090 69939 2 1 13095 69942 10 1",
   "7835 69952 1 0 251 69953 2 1 191 69955 1 0 129 69956 1 0 13080 69957 2 1 13093 69959 1 0 13076",
   "69968 32 1 10780 70000 3 1 10813 70004 2 1 681 70006 1 0 10812 70019 48 1 10818 70067 10 1",
   "10870 70077 4 1 10881 70081 3 1 10866 70084 1 0 10816 70085 2 1 193 70087 1 0 684 70088 1 0",
   "252 70093 1 0 683 70094 1 0 10880 70096 10 1 7835 70106 1 0 10817 70107 1 0 685 70108 1 0",
   "10869 70109 1 0 686 70110 2 1 253 70113 9 1 7836 70122 11 1 7618 70144 18 1 10885 70163 33 1",
   "10903 70197 1 0 10936 70200 2 1 195 70202 4 1 687 70207 3 1 10937 70272 4 1 10997 70276 3 1",
   "11003 70280 1 0 11006 70282 4 1 11007 70287 15 1 11011 70303 6 1 11026 70309 2 1 11001 70311 2",
   "1 11032 70313 1 0 255 70320 47 1 10940 70368 9 1 10987 70378 1 0 10996 70384 10 1 7835 70405 7",
   "1 11035 70412 1 0 11043 70415 2 1 11045 70419 22 1 11047 70442 7 1 11069 70450 2 1 11076 70453",
   "5 1 11078 70461 1 0 11083 70462 7 1 11086 70471 2 1 11095 70477 1 0 11099 70480 1 0 11034",
   "70487 1 0 11100 70493 1 0 11101 70494 2 1 11084 70496 1 0 11042 70497 1 0 11044 70498 2 1",
   "11093 70656 53 1 11104 70709 14 1 11162 70727 1 0 11157 70728 1 0 11160 70729 2 1 11102 70731",
   "2 1 197 70733 1 0 691 70734 2 1 693 70736 10 1 7835 70746 1 0 692 70747 1 0 695 70749 1 0 696",
   "70751 1 0 11161 70752 2 1 11158 70784 48 1 11177 70832 11 1 11227 70845 1 0 11240 70850 1 0",
   "11242 70852 2 1 11225 70854 1 0 697 70855 1 0 11176 70864 10 1 7835 71040 54 1 11243 71096 2 1",
   "11297 71103 1 0 11301 71105 1 0 698 71106 2 1 199 71108 20 1 699 71168 61 1 11302 71231 1 0",
   "11363 71233 2 1 201 71235 1 0 719 71236 1 0 11364 71248 10 1 7835 71264 13 1 533 71296 10 1",
   "11365 71306 2 1 11378 71308 27 1 11381 71335 1 0 11376 71336 1 0 11375 71337 1 0 11377 71338 1",
   "0 11408 71341 10 1 11409 71352 1 0 11380 71353 1 0 546 71360 10 1 7835 71424 5 1 11593 71430",
   "16 1 11598 71447 3 1 11614 71453 3 1 11636 71456 12 1 11617 71472 10 1 7835 71482 2 1 7590",
   "71484 2 1 203 71486 1 0 256 71487 1 0 993 71488 7 1 11629 71680 55 1 11537 71737 1 0 11592",
   "71739 1 0 720 71872 32 1 18114 71904 10 1 7835 71914 9 1 7629 71935 1 0 18113 71936 7 1 11419",
   "71945 1 0 11426 71948 5 1 11427 71953 3 1 11433 71957 2 1 11436 71960 14 1 11438 71974 1 0",
   "11453 71975 1 0 11455 71976 14 1 11457 71991 1 0 11471 71997 2 1 11473 71999 1 0 11432 72000 1",
   "0 11452 72001 1 0 11454 72002 1 0 11456 72004 1 0 205 72005 1 0 721 72006 1 0 257 72016 10 1",
   "7835 72096 8 1 11475 72106 39 1 11483 72145 7 1 11524 72154 1 0 11531 72155 3 1 11533 72160 1",
   "0 11536 72161 1 0 11522 72162 1 0 722 72163 1 0 11523 72164 1 0 11532 72192 11 1 12306 72203 1",
   "0 12266 72204 38 1 12268 72242 1 0 12267 72244 1 0 12317 72255 8 1 585 72263 1 0 12318 72272 4",
   "1 12319 72276 1 0 12325 72277 1 0 12327 72278 1 0 12326 72279 2 1 12328 72281 2 1 12323 72283",
   "2 1 12330 72285 38 1 12333 72323 1 0 12332 72324 2 1 12371 72345 1 0 12373 72346 3 1 593 72349",
   "1 0 12374 72350 5 1 596 72368 16 1 14605 72384 21 1 18153 72405 7 1 18146 72412 2 1 18174",
   "72414 1 0 18181 72415 5 1 18176 72420 1 0 18182 72421 1 0 18188 72422 1 0 18186 72423 1 0",
   "18200 72424 1 0 18189 72425 1 0 18187 72426 1 0 18201 72427 1 0 18196 72428 1 0 18194 72429 1",
   "0 18197 72430 1 0 18195 72431 1 0 18183 72432 1 0 18202 72433 1 0 18185 72434 1 0 18184 72435",
   "1 0 18192 72436 1 0 18190 72437 1 0 18198 72438 1 0 18193 72439 1 0 18191 72440 1 0 18199",
   "72448 10 1 601 72704 9 1 11916 72714 37 1 11925 72751 8 1 11963 72760 4 1 11971 72767 1 0",
   "11975 72768 1 0 11962 72769 2 1 206 72771 3 1 664 72784 10 1 7835 72794 9 1 7836 72803 10 1",
   "7608 72816 2 1 611 72818 1 0 12375 72819 1 0 12377 72820 1 0 12379 72821 1 0 12381 72822 1 0",
   "12383 72823 1 0 12385 72824 1 0 12387 72825 1 0 12389 72826 1 0 12391 72827 1 0 12393 72828 1",
   "0 12395 72829 1 0 12397 72830 1 0 12399 72831 1 0 12401 72832 1 0 12403 72833 1 0 12405 72834",
   "1 0 12407 72835 1 0 12409 72836 1 0 12411 72837 1 0 12413 72838 1 0 12415 72839 1 0 12417",
   "72840 2 1 12419 72842 1 0 12422 72843 1 0 12424 72844 1 0 12426 72845 1 0 12428 72846 1 0",
   "12430 72847 1 0 12432 72850 1 0 12376 72851 1 0 12378 72852 1 0 12380 72853 1 0 12382 72854 1",
   "0 12384 72855 1 0 12386 72856 1 0 12388 72857 1 0 12390 72858 1 0 12392 72859 1 0 12394 72860",
   "1 0 12396 72861 1 0 12398 72862 1 0 12400 72863 1 0 12402 72864 1 0 12404 72865 1 0 12406",
   "72866 1 0 12408 72867 1 0 12410 72868 1 0 12412 72869 1 0 12414 72870 1 0 12416 72871 1 0",
   "12418 72873 1 0 12421 72874 1 0 12423 72875 1 0 12425 72876 1 0 12427 72877 1 0 12429 72878 1",
   "0 12431 72879 6 1 12433 72960 7 1 11639 72968 2 1 11646 72971 44 1 11648 73018 1 0 11692 73020",
   "2 1 11693 73023 1 0 11695 73028 2 1 11696 73040 10 1 7835 73056 6 1 11699 73063 2 1 11705",
   "73066 37 1 11707 73104 2 1 11744 73107 2 1 11746 73111 1 0 11748 73112 1 0 11698 73120 10 1",
   "7835 73440 23 1 12709 73463 2 1 258 73474 15 1 13471 73490 41 1 13486 73534 5 1 13527 73539 13",
   "1 260 73552 10 1 7835 73648 1 0 17957 73664 21 1 7361 73685 8 1 915 73693 4 1 7299 73697 17 1",
   "923 73727 1 0 723 73728 611 1 20347 74339 113 1 20960 74452 2 1 20958 74454 196 1 21073 74752",
   "8 1 7837 74760 7 1 7838 74767 6 1 7839 74773 9 1 7836 74782 5 1 7836 74787 2 1 7837 74789 7 1",
   "7838 74796 3 1 7836 74799 3 1 7838 74802 2 1 7809 74804 3 1 7836 74807 3 1 7838 74810 2 0 7838",
   "74812 4 0 7839 74816 2 1 7841 74818 2 0 7842 74820 2 0 7843 74822 4 0 7844 74826 5 1 7837",
   "74831 4 1 7836 74835 2 1 7839 74837 1 0 7840 74838 2 1 7837 74840 2 1 7836 74842 15 1 7811",
   "74857 6 1 7839 74864 5 1 297 74880 196 1 21269 77712 97 1 19738 77809 2 1 302 77824 1072 1",
   "21465 78912 22 1 22537 82944 583 1 22586 92160 569 1 15128 92736 31 1 19021 92768 10 1 7835",
   "92782 2 1 208 92784 79 1 19052 92864 10 1 7835 92880 30 1 15697 92917 1 0 150 92928 48 1 18203",
   "92983 5 1 724 92988 4 1 3937 92992 2 1 18251 92994 2 1 7268 92996 1 0 729 92997 1 0 3941 93008",
   "10 1 7835 93019 7 1 7638 93027 21 1 18253 93053 19 1 18274 93792 32 1 15924 93824 10 1 7835",
   "93834 10 1 7645 93847 1 0 56 93848 1 0 151 93849 2 1 730 93952 4 1 17968 93956 2 1 17973 93959",
   "7 1 17975 93966 2 1 17983 93968 3 1 17986 93972 17 1 17989 93990 13 1 18006 94003 1 0 18020",
   "94004 6 1 18022 94010 5 1 18029 94016 5 1 18034 94021 1 0 17972 94022 1 0 18021 94023 1 0",
   "18019 94024 1 0 17982 94025 1 0 18028 94026 1 0 17985 94031 1 0 18043 94032 4 1 18039 94036 5",
   "1 18044 94041 4 1 18050 94045 4 1 18055 94049 5 1 18060 94054 8 1 18066 94062 5 1 18076 94067",
   "2 1 18082 94069 10 1 18086 94079 1 0 18074 94080 1 0 18081 94081 1 0 18049 94082 1 0 18085",
   "94083 1 0 18054 94084 1 0 18059 94085 1 0 18084 94086 1 0 18065 94087 1 0 18075 94095 17 1",
   "18096 94176 2 1 7274 94178 1 0 60 94179 1 0 7276 110576 4 1 16400 110581 7 1 16404 110589 2 1",
   "16411 110593 1 0 16426 110594 13 1 16413 110607 273 1 16427 110880 3 1 16352 113664 107 1",
   "18700 113776 13 1 18807 113792 9 1 18820 113808 10 1 18829 113820 1 0 4441 113823 1 0 152",
   "118528 46 1 8166 118576 23 1 8212 118608 116 1 4442 118784 246 1 3943 119040 39 1 4189 119081",
   "1 0 4247 119082 16 1 4231 119098 36 1 4248 119146 3 1 4284 119171 2 1 4287 119180 30 1 4289",
   "119214 13 1 4319 119233 42 1 4332 119296 66 1 4374 119365 1 0 4440 119488 10 1 7835 119498 10",
   "1 7655 119520 10 1 7835 119530 10 1 7655 119552 87 1 3705 119648 9 1 7836 119657 9 1 7826",
   "119666 5 1 7836 119671 1 0 7836 119672 1 0 7840 120832 512 1 6650 121399 4 1 7162 121453 8 1",
   "7166 121462 14 1 7174 121477 2 1 7188 121479 5 1 732 122624 31 1 8257 122661 6 1 8288 123136",
   "45 1 18293 123191 5 1 18338 123196 2 1 7270 123200 10 1 7835 123214 1 0 18343 123215 1 0 3942",
   "123536 30 1 18416 123584 44 1 18344 123632 10 1 7835 123647 1 0 7305 124112 28 1 18388 124144",
   "10 1 7835 124896 7 1 9724 124904 4 1 9731 124909 2 1 9735 124912 15 1 9737 124928 197 1 15727",
   "125127 9 1 7836 125218 34 1 15956 125259 1 0 15990 125264 10 1 7835 125278 1 0 113 125279 1 0",
   "130 126065 9 1 7836 126074 41 1 7665 126115 9 1 7836 126124 1 0 4558 126125 3 1 7706 126128 1",
   "0 7332 126131 2 1 7709 126209 9 1 7836 126218 36 1 7711 126254 1 0 4559 126263 7 1 7747 126704",
   "2 1 861 126976 44 1 4560 127024 100 1 4604 127136 15 1 4704 127153 15 1 4719 127169 15 1 4734",
   "127185 37 1 4749 127245 3 1 4884 127279 1 0 1046 127341 3 1 4887 127405 1 0 1048 127462 26 1",
   "2405 127584 6 1 4890 127744 768 1 4896 128512 216 1 6027 128732 17 1 6243 128752 13 1 6260",
   "128768 119 1 6273 128891 95 1 6392 128992 12 1 6487 129008 1 0 6499 129024 12 1 6500 129040 56",
   "1 6512 129104 10 1 6568 129120 40 1 6578 129168 30 1 6618 129200 2 1 6648 129280 256 1 5664",
   "129536 84 1 4786 129632 14 1 4870 129648 13 1 5920 129664 9 1 5933 129680 46 1 5942 129727 7 1",
   "5988 129742 14 1 5995 129760 9 1 6009 129776 9 1 6018 129792 147 1 1964 129940 55 1 2111"]

/-- Runs of one element without accent. -/
def letterRuns : List Run :=
  (Table.rows letterTable).map fun (first, count, step, letter) =>
    ⟨first, count, step, [.plain letter.toNat]⟩

/-- Code points of one element, as code, letter, accent and case. -/
def singleTable : List Int := Table.numbers
  ["65 7845 32 8 66 7859 32 8 67 7870 32 8 68 7879 32 8 69 7892 32 8 70 7915 32 8 71 7924 32 8 72",
   "7936 32 8 73 7948 32 8 74 7960 32 8 75 7967 32 8 76 7976 32 8 77 7997 32 8 78 8006 32 8 79",
   "8021 32 8 80 8050 32 8 81 8062 32 8 82 8069 32 8 83 8099 32 8 84 8120 32 8 85 8131 32 8 86",
   "8156 32 8 87 8165 32 8 88 8239 32 8 89 8248 32 8 90 8255 32 8 160 10 32 27 170 7845 32 20 181",
   "8373 32 4 185 7836 32 20 186 8021 32 20 222 8310 32 8 390 8034 32 8 398 7900 32 8 399 7902 32",
   "8 400 7904 32 8 403 7930 32 8 404 7934 32 8 406 7958 32 8 407 7954 32 8 412 8150 32 8 413 8011",
   "32 8 415 8044 32 8 422 8071 32 8 425 8113 32 8 430 8127 32 8 433 8154 32 8 434 8160 32 8 439",
   "8304 32 8 502 7938 32 8 503 8313 32 8 544 8012 32 8 570 7847 32 8 573 7981 32 8 574 8123 32 8",
   "579 7861 32 8 580 8139 32 8 581 8164 32 8 688 7936 32 20 689 7940 32 20 690 7960 32 20 691",
   "8069 32 20 692 8077 32 20 693 8081 32 20 694 8094 32 20 695 8165 32 20 696 8248 32 20 736 7934",
   "32 20 737 7976 32 20 738 8099 32 20 739 8239 32 20 740 8338 32 20 768 0 37 2 769 0 36 2 770 0",
   "39 2 771 0 45 2 772 0 50 2 773 0 58 2 774 0 38 2 775 0 46 2 776 0 43 2 777 0 59 2 778 0 41 2",
   "779 0 44 2 780 0 40 2 783 0 60 2 784 0 61 2 785 0 62 2 786 0 51 2 787 0 34 2 788 0 35 2 789 0",
   "51 2 794 0 51 2 795 0 63 2 801 0 64 2 802 0 65 2 803 0 66 2 804 0 67 2 805 0 68 2 806 0 69 2",
   "807 0 48 2 808 0 49 2 813 0 70 2 814 0 71 2 815 0 52 2 816 0 72 2 817 0 73 2 818 0 33 2 819 0",
   "52 2 820 0 74 2 821 0 57 2 824 0 47 2 825 0 75 2 834 0 42 2 837 0 76 2 838 0 51 2 855 0 51 2",
   "856 0 77 2 859 0 51 2 860 0 52 2 863 0 52 2 864 0 78 2 865 0 79 2 866 0 52 2 867 7845 32 4 868",
   "7892 32 4 869 7948 32 4 870 8021 32 4 871 8131 32 4 872 7870 32 4 873 7879 32 4 874 7936 32 4",
   "875 7997 32 4 876 8069 32 4 877 8120 32 4 878 8156 32 4 879 8239 32 4 890 8368 32 4 895 8369",
   "32 8 918 8364 32 8 929 8382 32 8 931 8385 32 8 937 8395 32 8 962 8385 32 25 976 8356 32 4 977",
   "8367 32 4 978 8390 32 10 981 8391 32 4 982 8377 32 4 1008 8370 32 4 1009 8382 32 4 1010 8385",
   "32 4 1012 8367 32 10 1013 8360 32 4 1017 8385 32 10 1021 8387 32 8 1022 8386 32 8 1023 8388 32",
   "8 1026 8473 32 8 1028 8478 32 8 1029 8488 32 8 1030 8496 32 8 1032 8499 32 8 1033 8515 32 8",
   "1034 8529 32 8 1035 8548 32 8 1039 8581 32 8 1040 8460 32 8 1044 8470 32 8 1045 8477 32 8 1046",
   "8479 32 8 1047 8483 32 8 1048 8494 32 8 1050 8501 32 8 1051 8509 32 8 1052 8519 32 8 1053 8522",
   "32 8 1054 8531 32 8 1055 8533 32 8 1056 8537 32 8 1057 8540 32 8 1058 8543 32 8 1059 8549 32 8",
   "1062 8567 32 8 1063 8572 32 8 1064 8582 32 8 1065 8584 32 8 1066 8588 32 8 1071 8599 32 8 1155",
   "0 80 2 1156 0 51 2 1157 0 35 2 1158 0 34 2 1159 0 51 2 1216 8616 32 8 1329 8789 32 8 1456 0 82",
   "2 1457 0 83 2 1458 0 84 2 1459 0 85 2 1460 0 86 2 1461 0 87 2 1462 0 88 2 1463 0 89 2 1464 0",
   "90 2 1467 0 92 2 1468 0 95 2 1471 0 96 2 1473 0 94 2 1474 0 93 2 1479 0 90 2 1498 8840 32 25",
   "1501 8842 32 25 1503 8843 32 25 1507 8846 32 25 1509 8847 32 25 1611 0 109 2 1612 0 112 2 1613",
   "0 115 2 1614 0 118 2 1615 0 122 2 1616 0 125 2 1617 0 128 2 1618 0 129 2 1619 0 130 2 1620 0",
   "131 2 1621 0 132 2 1622 0 134 2 1623 0 135 2 1624 0 136 2 1625 0 138 2 1626 0 139 2 1627 0 140",
   "2 1628 0 141 2 1629 0 142 2 1630 0 143 2 1631 0 133 2 1648 0 152 2 1652 8900 32 4 1765 9129 32",
   "4 1766 9144 32 4 1809 0 153 2 1828 9179 32 25 1840 0 154 2 1841 0 155 2 1842 0 156 2 1843 0",
   "157 2 1844 0 158 2 1845 0 159 2 1846 0 160 2 1847 0 161 2 1848 0 162 2 1849 0 163 2 1850 0 164",
   "2 1851 0 165 2 1852 0 166 2 1853 0 167 2 1854 0 168 2 1855 0 169 2 1857 0 51 2 1858 0 52 2",
   "1861 0 51 2 1862 0 52 2 2027 0 170 2 2028 0 171 2 2029 0 172 2 2030 0 173 2 2031 0 174 2 2032",
   "0 175 2 2033 0 176 2 2034 0 177 2 2035 0 178 2 2045 0 52 2 2072 0 106 2 2073 0 107 2 2091 0",
   "104 2 2092 0 105 2 2093 0 108 2 2221 8914 32 4 2275 0 144 2 2276 0 119 2 2277 0 123 2 2278 0",
   "126 2 2279 0 111 2 2280 0 114 2 2281 0 117 2 2288 0 110 2 2289 0 113 2 2290 0 116 2 2292 0 120",
   "2 2293 0 121 2 2294 0 127 2 2295 0 145 2 2296 0 146 2 2297 0 150 2 2298 0 151 2 2299 0 148 2",
   "2300 0 149 2 2301 0 147 2 2302 0 124 2 2303 0 137 2 2306 0 196 2 2307 0 197 2 2364 0 194 2",
   "2387 0 37 2 2388 0 36 2 2433 0 195 2 2434 0 196 2 2435 0 197 2 2492 0 194 2 2558 0 198 2 2561",
   "0 195 2 2562 0 196 2 2563 0 197 2 2620 0 194 2 2672 0 199 2 2673 0 200 2 2689 0 195 2 2690 0",
   "196 2 2691 0 197 2 2748 0 194 2 2810 0 129 2 2811 0 128 2 2812 0 130 2 2817 0 195 2 2818 0 196",
   "2 2819 0 197 2 2876 0 194 2 2901 0 51 2 2946 0 196 2 3074 0 196 2 3075 0 197 2 3076 0 196 2",
   "3132 0 196 2 3201 0 195 2 3202 0 196 2 3203 0 197 2 3260 0 194 2 3328 0 196 2 3329 0 195 2",
   "3330 0 196 2 3331 0 197 2 3457 0 195 2 3458 0 196 2 3459 0 197 2 3655 0 212 2 3656 0 213 2",
   "3657 0 214 2 3658 0 215 2 3659 0 216 2 3660 0 217 2 3661 0 218 2 3662 0 211 2 3784 0 219 2",
   "3785 0 220 2 3786 0 221 2 3787 0 222 2 3788 0 223 2 3789 0 224 2 3852 572 32 27 3891 7835 32 4",
   "3897 0 227 2 3966 0 196 2 3967 0 197 2 4139 12954 32 4 4150 0 196 2 4151 0 231 2 4152 0 197 2",
   "4256 8704 32 8 4257 8706 32 8 4258 8708 32 8 4259 8710 32 8 4260 8712 32 8 4261 8714 32 8 4262",
   "8716 32 8 4263 8720 32 8 4264 8722 32 8 4265 8724 32 8 4266 8726 32 8 4267 8728 32 8 4268 8730",
   "32 8 4269 8734 32 8 4270 8736 32 8 4271 8738 32 8 4272 8740 32 8 4273 8742 32 8 4274 8744 32 8",
   "4275 8748 32 8 4276 8750 32 8 4277 8752 32 8 4278 8754 32 8 4279 8756 32 8 4280 8758 32 8 4281",
   "8760 32 8 4282 8762 32 8 4283 8764 32 8 4284 8766 32 8 4285 8768 32 8 4286 8770 32 8 4287 8774",
   "32 8 4288 8776 32 8 4289 8718 32 8 4290 8732 32 8 4291 8746 32 8 4292 8772 32 8 4293 8778 32 8",
   "4295 8781 32 8 4301 8786 32 8 4348 8729 32 20 4957 0 181 2 4958 0 180 2 4959 0 179 2 5760 10",
   "32 4 6086 0 196 2 6087 0 197 2 6088 0 232 2 6089 0 233 2 6090 0 234 2 6109 0 51 2 6457 0 243 2",
   "6458 0 244 2 6459 0 245 2 6756 13334 32 4 6772 0 196 2 6773 0 235 2 6774 0 236 2 6775 0 237 2",
   "6776 0 238 2 6777 0 239 2 6778 0 240 2 6779 0 241 2 6780 0 242 2 6845 0 52 2 6846 0 54 2 6847",
   "8165 32 4 6848 8238 32 4 6914 0 196 2 6915 0 201 2 6916 0 197 2 6964 0 194 2 7040 0 196 2 7041",
   "0 203 2 7042 0 197 2 7098 11749 32 4 7102 11756 32 25 7103 11773 32 25 7105 12732 32 4 7110",
   "12734 32 4 7112 12735 32 4 7114 12736 32 4 7119 12738 32 4 7123 12741 32 4 7125 12742 32 4",
   "7127 12743 32 4 7132 12745 32 4 7135 12747 32 4 7142 0 194 2 7144 12754 32 4 7147 12756 32 4",
   "7149 12757 32 4 7151 12758 32 4 7223 0 194 2 7296 8464 32 4 7297 8470 32 4 7298 8531 32 4 7299",
   "8540 32 4 7302 8588 32 4 7303 8593 32 4 7304 8552 32 4 7312 8703 32 8 7313 8705 32 8 7314 8707",
   "32 8 7315 8709 32 8 7316 8711 32 8 7317 8713 32 8 7318 8715 32 8 7319 8719 32 8 7320 8721 32 8",
   "7321 8723 32 8 7322 8725 32 8 7323 8727 32 8 7324 8729 32 8 7325 8733 32 8 7326 8735 32 8 7327",
   "8737 32 8 7328 8739 32 8 7329 8741 32 8 7330 8743 32 8 7331 8747 32 8 7332 8749 32 8 7333 8751",
   "32 8 7334 8753 32 8 7335 8755 32 8 7336 8757 32 8 7337 8759 32 8 7338 8761 32 8 7339 8763 32 8",
   "7340 8765 32 8 7341 8767 32 8 7342 8769 32 8 7343 8773 32 8 7344 8775 32 8 7345 8717 32 8 7346",
   "8731 32 8 7347 8745 32 8 7348 8771 32 8 7349 8777 32 8 7357 8785 32 8 7405 0 196 2 7418 9915",
   "32 4 7468 7845 32 29 7470 7859 32 29 7472 7879 32 29 7473 7892 32 29 7474 7900 32 29 7475 7924",
   "32 29 7476 7936 32 29 7477 7948 32 29 7478 7960 32 29 7479 7967 32 29 7480 7976 32 29 7481",
   "7997 32 29 7482 8006 32 29 7484 8021 32 29 7485 8048 32 29 7486 8050 32 29 7487 8069 32 29",
   "7488 8120 32 29 7489 8131 32 29 7490 8165 32 29 7491 7845 32 20 7494 7851 32 20 7495 7859 32",
   "20 7496 7879 32 20 7497 7892 32 20 7498 7902 32 20 7499 7904 32 20 7500 7910 32 20 7501 7924",
   "32 20 7502 7953 32 20 7503 7967 32 20 7504 7997 32 20 7505 8019 32 20 7506 8021 32 20 7507",
   "8034 32 20 7510 8050 32 20 7511 8120 32 20 7512 8131 32 20 7513 8134 32 20 7514 8150 32 20",
   "7515 8156 32 20 7516 8342 32 20 7519 8359 32 20 7522 7948 32 21 7523 8069 32 21 7524 8131 32",
   "21 7525 8156 32 21 7528 8382 32 21 7544 8522 32 20 7579 7857 32 20 7580 7870 32 20 7581 7876",
   "32 20 7583 7908 32 20 7584 7915 32 20 7585 7965 32 20 7586 7925 32 20 7587 8147 32 20 7588",
   "7954 32 20 7589 7958 32 20 7590 7950 32 20 7591 7955 32 20 7592 7964 32 20 7593 7989 32 20",
   "7594 7988 32 20 7595 7977 32 20 7596 8001 32 20 7597 8153 32 20 7598 8011 32 20 7599 8015 32",
   "20 7600 8007 32 20 7601 8044 32 20 7602 8060 32 20 7603 8109 32 20 7604 8113 32 20 7605 8125",
   "32 20 7606 8139 32 20 7607 8154 32 20 7608 8132 32 20 7609 8160 32 20 7610 8164 32 20 7611",
   "8255 32 20 7614 8304 32 20 7615 8367 32 20 7618 0 52 2 7626 8069 32 4 7633 0 51 2 7634 8320 32",
   "4 7642 7924 32 4 7643 7927 32 4 7644 7967 32 4 7647 7998 32 4 7650 8071 32 4 7651 8073 32 4",
   "7652 8099 32 4 7654 8255 32 4 7655 7854 32 4 7656 7859 32 4 7657 7869 32 4 7658 7902 32 4 7659",
   "7915 32 4 7660 7984 32 4 7662 8050 32 4 7663 8113 32 4 7665 8165 32 4 7675 0 51 2 7678 0 51 2",
   "7679 0 52 2 8199 10 32 27 8209 22 32 27 8228 133 32 4 8239 10 32 27 8287 10 32 4 8304 7835 32",
   "20 8305 7948 32 20 8314 1193 32 20 8315 1204 32 20 8316 1198 32 20 8319 8006 32 20 8330 1193",
   "32 21 8331 1204 32 21 8332 1198 32 21 8336 7845 32 21 8337 7892 32 21 8338 8021 32 21 8339",
   "8239 32 21 8340 7902 32 21 8341 7936 32 21 8342 7967 32 21 8343 7976 32 21 8344 7997 32 21",
   "8345 8006 32 21 8346 8050 32 21 8347 8099 32 21 8348 8120 32 21 8400 0 265 2 8401 0 266 2 8404",
   "0 268 2 8405 0 269 2 8406 0 270 2 8407 0 271 2 8411 0 272 2 8412 0 273 2 8417 0 274 2 8421 0",
   "53 2 8422 0 275 2 8423 0 276 2 8424 0 277 2 8425 0 278 2 8432 0 51 2 8450 7870 32 11 8455 7904",
   "32 10 8458 7924 32 5 8462 7936 32 5 8466 7976 32 11 8467 7976 32 5 8469 8006 32 11 8473 8050",
   "32 11 8474 8062 32 11 8484 8255 32 11 8488 8255 32 11 8492 7859 32 11 8493 7870 32 11 8495",
   "7892 32 5 8496 7892 32 11 8497 7915 32 11 8498 7922 32 8 8499 7997 32 11 8500 8021 32 5 8505",
   "7948 32 5 8508 8377 32 5 8509 8357 32 5 8510 8357 32 11 8511 8377 32 11 8512 1192 32 5 8517",
   "7879 32 11 8518 7879 32 5 8519 7892 32 5 8520 7948 32 5 8521 7960 32 5 8544 7948 32 10 8548",
   "8156 32 10 8553 8239 32 10 8556 7976 32 10 8557 7870 32 10 8558 7879 32 10 8559 7997 32 10",
   "8560 7948 32 4 8564 8156 32 4 8569 8239 32 4 8572 7976 32 4 8573 7870 32 4 8574 7879 32 4 8575",
   "7997 32 4 9398 7845 32 12 9399 7859 32 12 9400 7870 32 12 9401 7879 32 12 9402 7892 32 12 9403",
   "7915 32 12 9404 7924 32 12 9405 7936 32 12 9406 7948 32 12 9407 7960 32 12 9408 7967 32 12",
   "9409 7976 32 12 9410 7997 32 12 9411 8006 32 12 9412 8021 32 12 9413 8050 32 12 9414 8062 32",
   "12 9415 8069 32 12 9416 8099 32 12 9417 8120 32 12 9418 8131 32 12 9419 8156 32 12 9420 8165",
   "32 12 9421 8239 32 12 9422 8248 32 12 9423 8255 32 12 9424 7845 32 6 9425 7859 32 6 9426 7870",
   "32 6 9427 7879 32 6 9428 7892 32 6 9429 7915 32 6 9430 7924 32 6 9431 7936 32 6 9432 7948 32 6",
   "9433 7960 32 6 9434 7967 32 6 9435 7976 32 6 9436 7997 32 6 9437 8006 32 6 9438 8021 32 6 9439",
   "8050 32 6 9440 8062 32 6 9441 8069 32 6 9442 8099 32 6 9443 8120 32 6 9444 8131 32 6 9445 8156",
   "32 6 9446 8165 32 6 9447 8239 32 6 9448 8248 32 6 9449 8255 32 6 9450 7835 32 6 9471 7835 32 6",
   "11362 7983 32 8 11363 8052 32 8 11364 8084 32 8 11373 7854 32 8 11374 8001 32 8 11375 7853 32",
   "8 11376 7857 32 8 11388 7960 32 21 11389 8156 32 29 11390 8110 32 8 11391 8301 32 8 11503 0 51",
   "2 11504 0 35 2 11505 0 34 2 11747 8470 32 4 11748 8479 32 4 11749 8483 32 4 11750 8501 32 4",
   "11751 8509 32 4 11752 8519 32 4 11753 8522 32 4 11754 8531 32 4 11755 8533 32 4 11756 8537 32",
   "4 11757 8540 32 4 11758 8543 32 4 11759 8555 32 4 11760 8567 32 4 11761 8572 32 4 11762 8582",
   "32 4 11763 8584 32 4 11764 8611 32 4 11766 8460 32 4 11767 8477 32 4 11768 8500 32 4 11769",
   "8552 32 4 11770 8593 32 4 11771 8596 32 4 11772 8598 32 4 11773 8602 32 4 11774 8604 32 4",
   "11775 8608 32 4 11906 8408667 32 4 11907 8408666 32 4 11909 8408763 32 4 11913 8409602 32 4",
   "11919 8412195 32 4 11920 8412194 32 4 11922 8412659 32 4 11923 8412794 32 4 11924 8413009 32 4",
   "11926 8413124 32 4 11928 8413772 32 4 11929 8414517 32 4 11931 8414689 32 4 11935 8416205 32 4",
   "11936 8416273 32 4 11937 8416309 32 4 11938 8416314 32 4 11939 8417388 32 4 11940 8417835 32 4",
   "11942 8408620 32 4 11944 8417965 32 4 11949 8419643 32 4 11951 8420601 32 4 11952 8421023 32 4",
   "11953 8421203 32 4 11954 8421202 32 4 11960 8421259 32 4 11961 8421378 32 4 11962 8421504 32 4",
   "11966 8422009 32 4 11969 8422990 32 4 11970 8423524 32 4 11971 8423808 32 4 11972 8423807 32 4",
   "11973 8423873 32 4 11974 8423890 32 4 11976 8424352 32 4 11977 8424733 32 4 11979 8425318 32 4",
   "11980 8425398 32 4 11984 8426629 32 4 11987 8426879 32 4 11988 8426984 32 4 11990 8427037 32 4",
   "11992 8427346 32 4 11993 8427494 32 4 11994 8427637 32 4 11995 8427726 32 4 11999 8427744 32 4",
   "12000 8427875 32 4 12002 8428140 32 4 12005 8428668 32 4 12006 8429087 32 4 12008 8429222 32 4",
   "12009 8429252 32 4 12010 8429310 32 4 12012 8429392 32 4 12014 8429439 32 4 12016 8429465 32 4",
   "12019 8429471 32 4 12032 8408576 32 4 12033 8408616 32 4 12034 8408630 32 4 12035 8408639 32 4",
   "12036 8408665 32 4 12037 8408709 32 4 12038 8408716 32 4 12039 8408736 32 4 12040 8408762 32 4",
   "12041 8409407 32 4 12042 8409445 32 4 12043 8409451 32 4 12044 8409474 32 4 12045 8409494 32 4",
   "12046 8409515 32 4 12047 8409568 32 4 12048 8409589 32 4 12049 8409600 32 4 12050 8409755 32 4",
   "12051 8409849 32 4 12052 8409877 32 4 12053 8409882 32 4 12054 8409912 32 4 12055 8409921 32 4",
   "12056 8409948 32 4 12057 8409961 32 4 12058 8409986 32 4 12059 8410038 32 4 12060 8410056 32 4",
   "12061 8410083 32 4 12062 8410839 32 4 12063 8410911 32 4 12064 8411371 32 4 12065 8411394 32 4",
   "12066 8411402 32 4 12067 8411413 32 4 12068 8411431 32 4 12069 8411507 32 4 12070 8411984 32 4",
   "12071 8412032 32 4 12072 8412152 32 4 12073 8412175 32 4 12074 8412194 32 4 12075 8412216 32 4",
   "12076 8412270 32 4 12077 8412273 32 4 12078 8412635 32 4 12079 8412645 32 4 12080 8412657 32 4",
   "12081 8412670 32 4 12082 8412786 32 4 12083 8412794 32 4 12084 8412799 32 4 12085 8412916 32 4",
   "12086 8412926 32 4 12087 8412939 32 4 12088 8412947 32 4 12089 8413008 32 4 12090 8413025 32 4",
   "12091 8413043 32 4 12092 8413123 32 4 12093 8413704 32 4 12094 8413750 32 4 12095 8413771 32 4",
   "12096 8414511 32 4 12097 8414516 32 4 12098 8414599 32 4 12099 8414615 32 4 12100 8414628 32 4",
   "12101 8414649 32 4 12102 8414688 32 4 12103 8414693 32 4 12104 8414960 32 4 12105 8414984 32 4",
   "12106 8415016 32 4 12107 8416032 32 4 12108 8416098 32 4 12109 8416121 32 4 12110 8416179 32 4",
   "12111 8416203 32 4 12112 8416212 32 4 12113 8416219 32 4 12114 8416271 32 4 12115 8416276 32 4",
   "12116 8416308 32 4 12117 8417387 32 4 12118 8417834 32 4 12119 8417846 32 4 12120 8417851 32 4",
   "12121 8417855 32 4 12122 8417863 32 4 12123 8417881 32 4 12124 8417883 32 4 12125 8417964 32 4",
   "12126 8418180 32 4 12127 8418185 32 4 12128 8418524 32 4 12129 8418534 32 4 12130 8418584 32 4",
   "12131 8418591 32 4 12132 8418600 32 4 12133 8418608 32 4 12134 8418699 32 4 12135 8418706 32 4",
   "12136 8418934 32 4 12137 8418941 32 4 12138 8418990 32 4 12139 8419007 32 4 12140 8419054 32 4",
   "12141 8419291 32 4 12142 8419298 32 4 12143 8419315 32 4 12144 8419642 32 4 12145 8419768 32 4",
   "12146 8419774 32 4 12147 8419956 32 4 12148 8420043 32 4 12149 8420089 32 4 12150 8420467 32 4",
   "12151 8420600 32 4 12152 8421174 32 4 12153 8421201 32 4 12154 8421258 32 4 12155 8421309 32 4",
   "12156 8421377 32 4 12157 8421388 32 4 12158 8421394 32 4 12159 8421427 32 4 12160 8421503 32 4",
   "12161 8421513 32 4 12162 8421859 32 4 12163 8421866 32 4 12164 8421875 32 4 12165 8421884 32 4",
   "12166 8421900 32 4 12167 8421915 32 4 12168 8421919 32 4 12169 8421998 32 4 12170 8422002 32 4",
   "12171 8422008 32 4 12172 8422989 32 4 12173 8423019 32 4 12174 8423488 32 4 12175 8423500 32 4",
   "12176 8423523 32 4 12177 8423806 32 4 12178 8423819 32 4 12179 8423890 32 4 12180 8423936 32 4",
   "12181 8424503 32 4 12182 8424518 32 4 12183 8424533 32 4 12184 8424568 32 4 12185 8424605 32 4",
   "12186 8424804 32 4 12187 8424816 32 4 12188 8424883 32 4 12189 8425131 32 4 12190 8425162 32 4",
   "12191 8425371 32 4 12192 8425392 32 4 12193 8425397 32 4 12194 8425617 32 4 12195 8425801 32 4",
   "12196 8425926 32 4 12197 8425932 32 4 12198 8425937 32 4 12199 8426871 32 4 12200 8426880 32 4",
   "12201 8427036 32 4 12202 8427190 32 4 12203 8427193 32 4 12204 8427240 32 4 12205 8427345 32 4",
   "12206 8427358 32 4 12207 8427362 32 4 12208 8427369 32 4 12209 8427467 32 4 12210 8427501 32 4",
   "12211 8427507 32 4 12212 8427521 32 4 12213 8427688 32 4 12214 8427739 32 4 12215 8427743 32 4",
   "12216 8427926 32 4 12217 8427929 32 4 12218 8427948 32 4 12219 8428200 32 4 12220 8428248 32 4",
   "12221 8428255 32 4 12222 8428325 32 4 12223 8428335 32 4 12224 8428338 32 4 12225 8428348 32 4",
   "12226 8428378 32 4 12227 8428773 32 4 12228 8429173 32 4 12229 8429183 32 4 12230 8429221 32 4",
   "12231 8429243 32 4 12232 8429251 32 4 12233 8429261 32 4 12234 8429265 32 4 12235 8429305 32 4",
   "12236 8429309 32 4 12237 8429326 32 4 12238 8429331 32 4 12239 8429344 32 4 12240 8429371 32 4",
   "12241 8429386 32 4 12242 8429394 32 4 12243 8429453 32 4 12244 8429468 32 4 12245 8429472 32 4",
   "12288 10 32 3 12330 0 257 2 12331 0 258 2 12332 0 259 2 12333 0 260 2 12334 0 261 2 12335 0",
   "262 2 12342 7244 32 4 12344 8409921 32 4 12353 16348 32 13 12354 16348 32 14 12355 16349 32 13",
   "12356 16349 32 14 12357 16350 32 13 12358 16350 32 14 12359 16355 32 13 12360 16355 32 14",
   "12361 16356 32 13 12365 16358 32 14 12367 16359 32 14 12369 16360 32 14 12371 16361 32 14",
   "12373 16362 32 14 12375 16363 32 14 12377 16364 32 14 12379 16365 32 14 12381 16366 32 14",
   "12383 16367 32 14 12385 16368 32 14 12387 16369 32 13 12388 16369 32 14 12390 16370 32 14",
   "12392 16371 32 14 12402 16378 32 14 12405 16379 32 14 12408 16380 32 14 12411 16381 32 14",
   "12419 16387 32 13 12420 16387 32 14 12421 16388 32 13 12422 16388 32 14 12423 16389 32 13",
   "12430 16395 32 13 12437 16357 32 13 12438 16360 32 13 12441 0 55 2 12442 0 56 2 12449 16348 32",
   "15 12450 16348 32 17 12451 16349 32 15 12452 16349 32 17 12453 16350 32 15 12454 16350 32 17",
   "12455 16355 32 15 12456 16355 32 17 12457 16356 32 15 12461 16358 32 17 12463 16359 32 17",
   "12465 16360 32 17 12467 16361 32 17 12469 16362 32 17 12471 16363 32 17 12473 16364 32 17",
   "12475 16365 32 17 12477 16366 32 17 12479 16367 32 17 12481 16368 32 17 12483 16369 32 15",
   "12484 16369 32 17 12486 16370 32 17 12488 16371 32 17 12498 16378 32 17 12501 16379 32 17",
   "12504 16380 32 17 12507 16381 32 17 12515 16387 32 15 12516 16387 32 17 12517 16388 32 15",
   "12518 16388 32 17 12519 16389 32 15 12526 16395 32 15 12533 16357 32 15 12534 16360 32 15",
   "12590 16735 32 4 12595 16213 32 4 12596 15993 32 4 12608 16017 32 4 12612 16024 32 4 12644",
   "16116 32 4 12649 16247 32 4 12650 16249 32 4 12651 16254 32 4 12652 16258 32 4 12653 16260 32",
   "4 12654 16019 32 4 12655 16264 32 4 12656 16266 32 4 12659 16023 32 4 12662 16030 32 4 12663",
   "16032 32 4 12669 16041 32 4 12670 16045 32 4 12671 16055 32 4 12672 16062 32 4 12673 16067 32",
   "4 12681 16156 32 4 12684 16168 32 4 12685 16178 32 4 12686 16181 32 4 12690 8408576 32 20",
   "12691 8408716 32 20 12692 8408585 32 20 12693 8410843 32 20 12694 8408586 32 20 12695 8408621",
   "32 20 12696 8408587 32 20 12697 8418610 32 20 12698 8408665 32 20 12699 8408601 32 20 12700",
   "8408577 32 20 12701 8411433 32 20 12702 8410928 32 20 12703 8408762 32 20 12724 16701 32 25",
   "12725 16707 32 25 12726 16712 32 25 12727 16715 32 25 12731 16711 32 25 12784 16359 32 15",
   "12787 16371 32 15 12788 16374 32 15 12794 16384 32 15 12868 8410447 32 6 12869 8412796 32 6",
   "12870 8414599 32 6 12871 8420239 32 6 12896 15991 32 6 12902 16000 32 6 12928 8408576 32 6",
   "12929 8408716 32 6 12930 8408585 32 6 12931 8410843 32 6 12932 8408724 32 6 12933 8409453 32 6",
   "12934 8408579 32 6 12935 8409451 32 6 12936 8408669 32 6 12937 8409921 32 6 12938 8414984 32 6",
   "12939 8417387 32 6 12940 8416308 32 6 12941 8415016 32 6 12942 8425937 32 6 12943 8410911 32 6",
   "12944 8414693 32 6 12945 8415274 32 6 12946 8414985 32 6 12947 8419646 32 6 12948 8410125 32 6",
   "12949 8417913 32 6 12950 8424609 32 6 12951 8419677 32 6 12952 8409780 32 6 12953 8419800 32 6",
   "12954 8418615 32 6 12955 8411507 32 6 12956 8425577 32 6 12957 8409386 32 6 12958 8409968 32 6",
   "12959 8416488 32 6 12960 8427525 32 6 12961 8408849 32 6 12962 8409497 32 6 12963 8416099 32 6",
   "12964 8408586 32 6 12965 8408621 32 6 12966 8408587 32 6 12967 8412646 32 6 12968 8410099 32 6",
   "12969 8409915 32 6 12970 8412055 32 6 12971 8412006 32 6 12972 8419043 32 6 12973 8408833 32 6",
   "12974 8424647 32 6 12975 8409940 32 6 12976 8411420 32 6 42512 14867 32 4 42513 14885 32 4",
   "42514 14914 32 4 42538 14889 32 4 42539 14988 32 4 42600 8531 32 10 42601 8531 32 4 42602 8531",
   "32 10 42603 8531 32 4 42604 8531 32 10 42607 0 81 2 42612 8478 32 4 42613 8494 32 4 42615 8549",
   "32 4 42616 8588 32 4 42619 8562 32 4 42648 8531 32 10 42649 8531 32 4 42650 8531 32 10 42651",
   "8531 32 4 42652 8588 32 20 42653 8591 32 20 42654 8554 32 4 42655 8601 32 4 42736 0 182 2",
   "42737 0 183 2 42864 8320 32 20 42893 8147 32 8 42922 7940 32 8 42923 7908 32 8 42924 7925 32 8",
   "42925 7986 32 8 42926 7950 32 8 42928 7975 32 8 42929 8130 32 8 42930 7964 32 8 42931 8245 32",
   "8 42948 7874 32 8 42949 8109 32 8 42950 8297 32 8 42994 7870 32 20 42995 7915 32 20 42996 8062",
   "32 20 43019 0 196 2 43136 0 196 2 43137 0 197 2 43205 0 195 2 43307 0 228 2 43308 0 229 2",
   "43309 0 230 2 43392 0 195 2 43393 0 196 2 43394 0 202 2 43395 0 197 2 43436 13590 32 4 43443 0",
   "194 2 43445 13598 32 4 43711 0 225 2 43713 0 226 2 43868 7944 32 20 43869 7987 32 20 43870",
   "7983 32 20 43871 8144 32 20 43881 8238 32 20 44012 0 204 2 64286 0 97 2 64288 8845 32 5 64289",
   "8830 32 5 64295 8849 32 5 64296 8851 32 5 64297 1193 32 5 64336 8904 32 26 64337 8904 32 25",
   "64338 8917 32 26 64339 8917 32 25 64340 8917 32 23 64341 8917 32 24 64342 8918 32 26 64343",
   "8918 32 25 64344 8918 32 23 64345 8918 32 24 64346 8919 32 26 64347 8919 32 25 64348 8919 32",
   "23 64349 8919 32 24 64350 8936 32 26 64351 8936 32 25 64352 8936 32 23 64353 8936 32 24 64354",
   "8939 32 26 64355 8939 32 25 64356 8939 32 23 64357 8939 32 24 64358 8935 32 26 64359 8935 32",
   "25 64360 8935 32 23 64361 8935 32 24 64362 9033 32 26 64363 9033 32 25 64364 9033 32 23 64365",
   "9033 32 24 64366 9036 32 26 64367 9036 32 25 64368 9036 32 23 64369 9036 32 24 64370 8945 32",
   "26 64371 8945 32 25 64372 8945 32 23 64373 8945 32 24 64374 8944 32 26 64375 8944 32 25 64376",
   "8944 32 23 64377 8944 32 24 64378 8946 32 26 64379 8946 32 25 64380 8946 32 23 64381 8946 32",
   "24 64382 8948 32 26 64383 8948 32 25 64384 8948 32 23 64385 8948 32 24 64386 8971 32 26 64387",
   "8971 32 25 64388 8970 32 26 64389 8970 32 25 64390 8973 32 26 64391 8973 32 25 64392 8966 32",
   "26 64393 8966 32 25 64394 8988 32 26 64395 8988 32 25 64396 8981 32 26 64397 8981 32 25 64398",
   "9047 32 26 64399 9047 32 25 64400 9047 32 23 64401 9047 32 24 64402 9086 32 26 64403 9086 32",
   "25 64404 9086 32 23 64405 9086 32 24 64406 9091 32 26 64407 9091 32 25 64408 9091 32 23 64409",
   "9091 32 24 64410 9089 32 26 64411 9089 32 25 64412 9089 32 23 64413 9089 32 24 64414 9114 32",
   "26 64415 9114 32 25 64416 9116 32 26 64417 9116 32 25 64418 9116 32 23 64419 9116 32 24 64422",
   "9125 32 26 64423 9125 32 25 64424 9125 32 23 64425 9125 32 24 64426 9124 32 26 64427 9124 32",
   "25 64428 9124 32 23 64429 9124 32 24 64430 9158 32 26 64431 9158 32 25 64467 9082 32 26 64468",
   "9082 32 25 64469 9082 32 23 64470 9082 32 24 64471 9133 32 26 64472 9133 32 25 64473 9132 32",
   "26 64474 9132 32 25 64475 9134 32 26 64476 9134 32 25 64478 9137 32 26 64479 9137 32 25 64480",
   "9131 32 26 64481 9131 32 25 64482 9135 32 26 64483 9135 32 25 64484 9148 32 26 64485 9148 32",
   "25 64486 9148 32 23 64487 9148 32 24 64488 9143 32 23 64489 9143 32 24 64508 9145 32 26 64509",
   "9145 32 25 64510 9145 32 23 64511 9145 32 24 65040 38 32 22 65041 57 32 22 65042 153 32 22",
   "65043 68 32 22 65044 61 32 22 65045 107 32 22 65046 114 32 22 65056 0 79 2 65058 0 78 2 65063",
   "0 52 2 65065 0 78 2 65070 0 80 2 65073 25 32 22 65074 24 32 22 65104 38 32 15 65105 57 32 15",
   "65106 133 32 15 65108 61 32 15 65109 68 32 15 65110 114 32 15 65111 107 32 15 65112 25 32 15",
   "65119 462 32 15 65120 459 32 15 65121 451 32 15 65122 1193 32 15 65123 14 32 15 65124 1197 32",
   "15 65125 1199 32 15 65126 1198 32 15 65128 457 32 15 65129 7285 32 15 65130 463 32 15 65131",
   "450 32 15 65136 0 109 26 65137 0 109 24 65138 0 112 26 65140 0 115 26 65142 0 118 26 65143 0",
   "118 24 65144 0 122 26 65145 0 122 24 65146 0 125 26 65147 0 125 24 65148 0 128 26 65149 0 128",
   "24 65150 0 129 26 65151 0 129 24 65154 8901 32 25 65155 8902 32 26 65156 8902 32 25 65157 8905",
   "32 26 65158 8905 32 25 65159 8906 32 26 65160 8906 32 25 65161 8910 32 26 65162 8910 32 25",
   "65163 8910 32 23 65164 8910 32 24 65165 8914 32 26 65166 8914 32 25 65167 8916 32 26 65168",
   "8916 32 25 65169 8916 32 23 65170 8916 32 24 65171 8932 32 26 65172 8932 32 25 65173 8933 32",
   "26 65174 8933 32 25 65175 8933 32 23 65176 8933 32 24 65177 8934 32 26 65178 8934 32 25 65179",
   "8934 32 23 65180 8934 32 24 65181 8943 32 26 65182 8943 32 25 65183 8943 32 23 65184 8943 32",
   "24 65185 8953 32 26 65186 8953 32 25 65187 8953 32 23 65188 8953 32 24 65189 8954 32 26 65190",
   "8954 32 25 65191 8954 32 23 65192 8954 32 24 65193 8964 32 26 65194 8964 32 25 65195 8965 32",
   "26 65196 8965 32 25 65197 8979 32 26 65198 8979 32 25 65199 8980 32 26 65200 8980 32 25 65201",
   "8998 32 26 65202 8998 32 25 65203 8998 32 23 65204 8998 32 24 65205 8999 32 26 65206 8999 32",
   "25 65207 8999 32 23 65208 8999 32 24 65209 9009 32 26 65210 9009 32 25 65211 9009 32 23 65212",
   "9009 32 24 65213 9010 32 26 65214 9010 32 25 65215 9010 32 23 65216 9010 32 24 65217 9015 32",
   "26 65218 9015 32 25 65219 9015 32 23 65220 9015 32 24 65221 9016 32 26 65222 9016 32 25 65223",
   "9016 32 23 65224 9016 32 24 65225 9019 32 26 65226 9019 32 25 65227 9019 32 23 65228 9019 32",
   "24 65229 9020 32 26 65230 9020 32 25 65231 9020 32 23 65232 9020 32 24 65233 9028 32 26 65234",
   "9028 32 25 65235 9028 32 23 65236 9028 32 24 65237 9040 32 26 65238 9040 32 25 65239 9040 32",
   "23 65240 9040 32 24 65241 9046 32 26 65242 9046 32 25 65243 9046 32 23 65244 9046 32 24 65245",
   "9099 32 26 65246 9099 32 25 65247 9099 32 23 65248 9099 32 24 65249 9109 32 26 65250 9109 32",
   "25 65251 9109 32 23 65252 9109 32 24 65253 9113 32 26 65254 9113 32 25 65255 9113 32 23 65256",
   "9113 32 24 65257 9123 32 26 65258 9123 32 25 65259 9123 32 23 65260 9123 32 24 65261 9129 32",
   "26 65262 9129 32 25 65263 9143 32 26 65264 9143 32 25 65265 9144 32 26 65266 9144 32 25 65267",
   "9144 32 23 65268 9144 32 24 65281 107 32 3 65282 311 32 3 65283 462 32 3 65284 7285 32 3 65285",
   "463 32 3 65286 459 32 3 65287 304 32 3 65290 451 32 3 65291 1193 32 3 65292 38 32 3 65293 14",
   "32 3 65294 133 32 3 65295 456 32 3 65306 68 32 3 65307 61 32 3 65311 114 32 3 65312 450 32 3",
   "65313 7845 32 9 65314 7859 32 9 65315 7870 32 9 65316 7879 32 9 65317 7892 32 9 65318 7915 32",
   "9 65319 7924 32 9 65320 7936 32 9 65321 7948 32 9 65322 7960 32 9 65323 7967 32 9 65324 7976",
   "32 9 65325 7997 32 9 65326 8006 32 9 65327 8021 32 9 65328 8050 32 9 65329 8062 32 9 65330",
   "8069 32 9 65331 8099 32 9 65332 8120 32 9 65333 8131 32 9 65334 8156 32 9 65335 8165 32 9",
   "65336 8239 32 9 65337 8248 32 9 65338 8255 32 9 65339 332 32 3 65340 457 32 3 65341 333 32 3",
   "65342 741 32 3 65343 12 32 3 65344 738 32 3 65345 7845 32 3 65346 7859 32 3 65347 7870 32 3",
   "65348 7879 32 3 65349 7892 32 3 65350 7915 32 3 65351 7924 32 3 65352 7936 32 3 65353 7948 32",
   "3 65354 7960 32 3 65355 7967 32 3 65356 7976 32 3 65357 7997 32 3 65358 8006 32 3 65359 8021",
   "32 3 65360 8050 32 3 65361 8062 32 3 65362 8069 32 3 65363 8099 32 3 65364 8120 32 3 65365",
   "8131 32 3 65366 8156 32 3 65367 8165 32 3 65368 8239 32 3 65369 8248 32 3 65370 8255 32 3",
   "65371 334 32 3 65372 1201 32 3 65373 335 32 3 65374 1203 32 3 65377 153 32 18 65380 57 32 18",
   "65381 36 32 18 65382 16398 32 18 65391 16369 32 16 65392 7281 32 18 65437 16399 32 18 65438 0",
   "55 18 65439 0 56 18 65440 16116 32 18 65443 16213 32 18 65444 15993 32 18 65456 16017 32 18",
   "65460 16024 32 18 65504 7284 32 3 65505 7286 32 3 65506 1200 32 3 65507 742 32 3 65508 1202 32",
   "3 65509 7287 32 3 65510 7315 32 3 65512 1710 32 18 65513 1071 32 18 65514 1073 32 18 65515",
   "1072 32 18 65516 1074 32 18 65517 1868 32 18 65518 1911 32 18 65534 1 1 1 66045 0 279 2 66422",
   "8665 32 4 66423 8668 32 4 66424 8672 32 4 66425 8678 32 4 66426 8682 32 4 67460 7860 32 20",
   "67461 7867 32 20 67470 7906 32 20 67471 7912 32 20 67473 7914 32 20 67474 7927 32 20 67478",
   "7937 32 20 67479 7945 32 20 67480 7966 32 20 67483 7986 32 20 67484 8261 32 20 67485 7990 32",
   "20 67486 7993 32 20 67487 8262 32 20 67488 7996 32 20 67489 8263 32 20 67491 8025 32 20 67492",
   "8046 32 20 67493 8062 32 20 67494 8079 32 20 67495 8265 32 20 67496 8084 32 20 67497 8086 32",
   "20 67498 8071 32 20 67503 8127 32 20 67504 8161 32 20 67506 8249 32 20 67509 8352 32 20 67513",
   "8267 32 20 67514 8287 32 20 67693 19959 32 25 67712 19968 32 25 67714 19969 32 25 67718 19972",
   "32 25 67724 19977 32 25 67726 19978 32 25 67728 19979 32 25 67730 19980 32 25 67732 19981 32",
   "25 67740 19988 32 25 68109 0 52 2 68110 0 196 2 68111 0 197 2 68152 0 205 2 68153 0 206 2",
   "68154 0 207 2 68325 0 51 2 68326 0 52 2 68736 14693 32 8 68765 14717 32 8 68780 14728 32 8",
   "69291 0 131 2 69292 0 130 2 69377 20150 32 25 69379 20151 32 25 69382 20153 32 25 69391 20161",
   "32 25 69398 20165 32 25 69403 20168 32 25 69451 0 52 2 69452 0 51 2 69632 0 195 2 69633 0 196",
   "2 69634 0 197 2 69760 0 195 2 69761 0 196 2 69762 0 197 2 69818 0 194 2 69888 0 195 2 69889 0",
   "196 2 69890 0 197 2 70003 0 194 2 70016 0 195 2 70017 0 196 2 70018 0 197 2 70089 0 198 2",
   "70090 0 194 2 70091 0 208 2 70092 0 209 2 70095 0 195 2 70196 0 196 2 70198 0 194 2 70199 0",
   "128 2 70206 0 129 2 70367 0 196 2 70377 0 194 2 70400 0 196 2 70401 0 195 2 70402 0 196 2",
   "70403 0 197 2 70723 0 195 2 70724 0 196 2 70725 0 197 2 70726 0 194 2 70750 0 198 2 70847 0",
   "195 2 70848 0 196 2 70849 0 197 2 70851 0 194 2 71100 0 195 2 71101 0 196 2 71102 0 197 2",
   "71104 0 194 2 71229 0 196 2 71230 0 197 2 71232 0 195 2 71339 0 196 2 71340 0 197 2 71351 0",
   "194 2 71735 0 196 2 71736 0 197 2 71738 0 194 2 71995 0 196 2 71996 0 195 2 72003 0 194 2",
   "72158 0 196 2 72159 0 197 2 72243 0 194 2 72248 0 196 2 72249 0 197 2 72250 12299 32 23 72328",
   "12367 32 23 72329 12369 32 23 72330 12331 32 25 72331 12333 32 25 72332 12336 32 25 72333",
   "12347 32 25 72336 12356 32 25 72339 12367 32 25 72340 12369 32 25 72341 12362 32 25 72342 0",
   "196 2 72343 0 197 2 72344 0 210 2 72764 0 195 2 72765 0 196 2 72766 0 197 2 72885 0 196 2",
   "72886 0 195 2 73024 0 196 2 73025 0 197 2 73026 0 194 2 73027 0 195 2 73030 11675 32 23 73031",
   "11675 32 25 73109 0 196 2 73110 0 197 2 92912 0 184 2 92913 0 185 2 92914 0 186 2 92915 0 187",
   "2 92916 0 188 2 92976 0 246 2 92977 0 247 2 92978 0 248 2 92979 0 249 2 92980 0 250 2 92981 0",
   "251 2 92982 0 252 2 93958 17973 32 4 93971 17986 32 4 93989 18004 32 4 94015 18032 32 4 94192",
   "0 263 2 94193 0 264 2 110592 16351 32 17 110898 16361 32 13 110933 16361 32 15 113821 0 51 2",
   "113822 0 53 2 119808 7845 32 11 119809 7859 32 11 119810 7870 32 11 119811 7879 32 11 119812",
   "7892 32 11 119813 7915 32 11 119814 7924 32 11 119815 7936 32 11 119816 7948 32 11 119817 7960",
   "32 11 119818 7967 32 11 119819 7976 32 11 119820 7997 32 11 119821 8006 32 11 119822 8021 32",
   "11 119823 8050 32 11 119824 8062 32 11 119825 8069 32 11 119826 8099 32 11 119827 8120 32 11",
   "119828 8131 32 11 119829 8156 32 11 119830 8165 32 11 119831 8239 32 11 119832 8248 32 11",
   "119833 8255 32 11 119834 7845 32 5 119835 7859 32 5 119836 7870 32 5 119837 7879 32 5 119838",
   "7892 32 5 119839 7915 32 5 119840 7924 32 5 119841 7936 32 5 119842 7948 32 5 119843 7960 32 5",
   "119844 7967 32 5 119845 7976 32 5 119846 7997 32 5 119847 8006 32 5 119848 8021 32 5 119849",
   "8050 32 5 119850 8062 32 5 119851 8069 32 5 119852 8099 32 5 119853 8120 32 5 119854 8131 32 5",
   "119855 8156 32 5 119856 8165 32 5 119857 8239 32 5 119858 8248 32 5 119859 8255 32 5 119860",
   "7845 32 11 119861 7859 32 11 119862 7870 32 11 119863 7879 32 11 119864 7892 32 11 119865 7915",
   "32 11 119866 7924 32 11 119867 7936 32 11 119868 7948 32 11 119869 7960 32 11 119870 7967 32",
   "11 119871 7976 32 11 119872 7997 32 11 119873 8006 32 11 119874 8021 32 11 119875 8050 32 11",
   "119876 8062 32 11 119877 8069 32 11 119878 8099 32 11 119879 8120 32 11 119880 8131 32 11",
   "119881 8156 32 11 119882 8165 32 11 119883 8239 32 11 119884 8248 32 11 119885 8255 32 11",
   "119886 7845 32 5 119887 7859 32 5 119888 7870 32 5 119889 7879 32 5 119890 7892 32 5 119891",
   "7915 32 5 119892 7924 32 5 119894 7948 32 5 119895 7960 32 5 119896 7967 32 5 119897 7976 32 5",
   "119898 7997 32 5 119899 8006 32 5 119900 8021 32 5 119901 8050 32 5 119902 8062 32 5 119903",
   "8069 32 5 119904 8099 32 5 119905 8120 32 5 119906 8131 32 5 119907 8156 32 5 119908 8165 32 5",
   "119909 8239 32 5 119910 8248 32 5 119911 8255 32 5 119912 7845 32 11 119913 7859 32 11 119914",
   "7870 32 11 119915 7879 32 11 119916 7892 32 11 119917 7915 32 11 119918 7924 32 11 119919 7936",
   "32 11 119920 7948 32 11 119921 7960 32 11 119922 7967 32 11 119923 7976 32 11 119924 7997 32",
   "11 119925 8006 32 11 119926 8021 32 11 119927 8050 32 11 119928 8062 32 11 119929 8069 32 11",
   "119930 8099 32 11 119931 8120 32 11 119932 8131 32 11 119933 8156 32 11 119934 8165 32 11",
   "119935 8239 32 11 119936 8248 32 11 119937 8255 32 11 119938 7845 32 5 119939 7859 32 5 119940",
   "7870 32 5 119941 7879 32 5 119942 7892 32 5 119943 7915 32 5 119944 7924 32 5 119945 7936 32 5",
   "119946 7948 32 5 119947 7960 32 5 119948 7967 32 5 119949 7976 32 5 119950 7997 32 5 119951",
   "8006 32 5 119952 8021 32 5 119953 8050 32 5 119954 8062 32 5 119955 8069 32 5 119956 8099 32 5",
   "119957 8120 32 5 119958 8131 32 5 119959 8156 32 5 119960 8165 32 5 119961 8239 32 5 119962",
   "8248 32 5 119963 8255 32 5 119964 7845 32 11 119966 7870 32 11 119967 7879 32 11 119970 7924",
   "32 11 119973 7960 32 11 119974 7967 32 11 119977 8006 32 11 119978 8021 32 11 119979 8050 32",
   "11 119980 8062 32 11 119982 8099 32 11 119983 8120 32 11 119984 8131 32 11 119985 8156 32 11",
   "119986 8165 32 11 119987 8239 32 11 119988 8248 32 11 119989 8255 32 11 119990 7845 32 5",
   "119991 7859 32 5 119992 7870 32 5 119993 7879 32 5 119995 7915 32 5 119997 7936 32 5 119998",
   "7948 32 5 119999 7960 32 5 120000 7967 32 5 120001 7976 32 5 120002 7997 32 5 120003 8006 32 5",
   "120005 8050 32 5 120006 8062 32 5 120007 8069 32 5 120008 8099 32 5 120009 8120 32 5 120010",
   "8131 32 5 120011 8156 32 5 120012 8165 32 5 120013 8239 32 5 120014 8248 32 5 120015 8255 32 5",
   "120016 7845 32 11 120017 7859 32 11 120018 7870 32 11 120019 7879 32 11 120020 7892 32 11",
   "120021 7915 32 11 120022 7924 32 11 120023 7936 32 11 120024 7948 32 11 120025 7960 32 11",
   "120026 7967 32 11 120027 7976 32 11 120028 7997 32 11 120029 8006 32 11 120030 8021 32 11",
   "120031 8050 32 11 120032 8062 32 11 120033 8069 32 11 120034 8099 32 11 120035 8120 32 11",
   "120036 8131 32 11 120037 8156 32 11 120038 8165 32 11 120039 8239 32 11 120040 8248 32 11",
   "120041 8255 32 11 120042 7845 32 5 120043 7859 32 5 120044 7870 32 5 120045 7879 32 5 120046",
   "7892 32 5 120047 7915 32 5 120048 7924 32 5 120049 7936 32 5 120050 7948 32 5 120051 7960 32 5",
   "120052 7967 32 5 120053 7976 32 5 120054 7997 32 5 120055 8006 32 5 120056 8021 32 5 120057",
   "8050 32 5 120058 8062 32 5 120059 8069 32 5 120060 8099 32 5 120061 8120 32 5 120062 8131 32 5",
   "120063 8156 32 5 120064 8165 32 5 120065 8239 32 5 120066 8248 32 5 120067 8255 32 5 120068",
   "7845 32 11 120069 7859 32 11 120071 7879 32 11 120072 7892 32 11 120073 7915 32 11 120074 7924",
   "32 11 120077 7960 32 11 120078 7967 32 11 120079 7976 32 11 120080 7997 32 11 120081 8006 32",
   "11 120082 8021 32 11 120083 8050 32 11 120084 8062 32 11 120086 8099 32 11 120087 8120 32 11",
   "120088 8131 32 11 120089 8156 32 11 120090 8165 32 11 120091 8239 32 11 120092 8248 32 11",
   "120094 7845 32 5 120095 7859 32 5 120096 7870 32 5 120097 7879 32 5 120098 7892 32 5 120099",
   "7915 32 5 120100 7924 32 5 120101 7936 32 5 120102 7948 32 5 120103 7960 32 5 120104 7967 32 5",
   "120105 7976 32 5 120106 7997 32 5 120107 8006 32 5 120108 8021 32 5 120109 8050 32 5 120110",
   "8062 32 5 120111 8069 32 5 120112 8099 32 5 120113 8120 32 5 120114 8131 32 5 120115 8156 32 5",
   "120116 8165 32 5 120117 8239 32 5 120118 8248 32 5 120119 8255 32 5 120120 7845 32 11 120121",
   "7859 32 11 120123 7879 32 11 120124 7892 32 11 120125 7915 32 11 120126 7924 32 11 120128 7948",
   "32 11 120129 7960 32 11 120130 7967 32 11 120131 7976 32 11 120132 7997 32 11 120134 8021 32",
   "11 120138 8099 32 11 120139 8120 32 11 120140 8131 32 11 120141 8156 32 11 120142 8165 32 11",
   "120143 8239 32 11 120144 8248 32 11 120146 7845 32 5 120147 7859 32 5 120148 7870 32 5 120149",
   "7879 32 5 120150 7892 32 5 120151 7915 32 5 120152 7924 32 5 120153 7936 32 5 120154 7948 32 5",
   "120155 7960 32 5 120156 7967 32 5 120157 7976 32 5 120158 7997 32 5 120159 8006 32 5 120160",
   "8021 32 5 120161 8050 32 5 120162 8062 32 5 120163 8069 32 5 120164 8099 32 5 120165 8120 32 5",
   "120166 8131 32 5 120167 8156 32 5 120168 8165 32 5 120169 8239 32 5 120170 8248 32 5 120171",
   "8255 32 5 120172 7845 32 11 120173 7859 32 11 120174 7870 32 11 120175 7879 32 11 120176 7892",
   "32 11 120177 7915 32 11 120178 7924 32 11 120179 7936 32 11 120180 7948 32 11 120181 7960 32",
   "11 120182 7967 32 11 120183 7976 32 11 120184 7997 32 11 120185 8006 32 11 120186 8021 32 11",
   "120187 8050 32 11 120188 8062 32 11 120189 8069 32 11 120190 8099 32 11 120191 8120 32 11",
   "120192 8131 32 11 120193 8156 32 11 120194 8165 32 11 120195 8239 32 11 120196 8248 32 11",
   "120197 8255 32 11 120198 7845 32 5 120199 7859 32 5 120200 7870 32 5 120201 7879 32 5 120202",
   "7892 32 5 120203 7915 32 5 120204 7924 32 5 120205 7936 32 5 120206 7948 32 5 120207 7960 32 5",
   "120208 7967 32 5 120209 7976 32 5 120210 7997 32 5 120211 8006 32 5 120212 8021 32 5 120213",
   "8050 32 5 120214 8062 32 5 120215 8069 32 5 120216 8099 32 5 120217 8120 32 5 120218 8131 32 5",
   "120219 8156 32 5 120220 8165 32 5 120221 8239 32 5 120222 8248 32 5 120223 8255 32 5 120224",
   "7845 32 11 120225 7859 32 11 120226 7870 32 11 120227 7879 32 11 120228 7892 32 11 120229 7915",
   "32 11 120230 7924 32 11 120231 7936 32 11 120232 7948 32 11 120233 7960 32 11 120234 7967 32",
   "11 120235 7976 32 11 120236 7997 32 11 120237 8006 32 11 120238 8021 32 11 120239 8050 32 11",
   "120240 8062 32 11 120241 8069 32 11 120242 8099 32 11 120243 8120 32 11 120244 8131 32 11",
   "120245 8156 32 11 120246 8165 32 11 120247 8239 32 11 120248 8248 32 11 120249 8255 32 11",
   "120250 7845 32 5 120251 7859 32 5 120252 7870 32 5 120253 7879 32 5 120254 7892 32 5 120255",
   "7915 32 5 120256 7924 32 5 120257 7936 32 5 120258 7948 32 5 120259 7960 32 5 120260 7967 32 5",
   "120261 7976 32 5 120262 7997 32 5 120263 8006 32 5 120264 8021 32 5 120265 8050 32 5 120266",
   "8062 32 5 120267 8069 32 5 120268 8099 32 5 120269 8120 32 5 120270 8131 32 5 120271 8156 32 5",
   "120272 8165 32 5 120273 8239 32 5 120274 8248 32 5 120275 8255 32 5 120276 7845 32 11 120277",
   "7859 32 11 120278 7870 32 11 120279 7879 32 11 120280 7892 32 11 120281 7915 32 11 120282 7924",
   "32 11 120283 7936 32 11 120284 7948 32 11 120285 7960 32 11 120286 7967 32 11 120287 7976 32",
   "11 120288 7997 32 11 120289 8006 32 11 120290 8021 32 11 120291 8050 32 11 120292 8062 32 11",
   "120293 8069 32 11 120294 8099 32 11 120295 8120 32 11 120296 8131 32 11 120297 8156 32 11",
   "120298 8165 32 11 120299 8239 32 11 120300 8248 32 11 120301 8255 32 11 120302 7845 32 5",
   "120303 7859 32 5 120304 7870 32 5 120305 7879 32 5 120306 7892 32 5 120307 7915 32 5 120308",
   "7924 32 5 120309 7936 32 5 120310 7948 32 5 120311 7960 32 5 120312 7967 32 5 120313 7976 32 5",
   "120314 7997 32 5 120315 8006 32 5 120316 8021 32 5 120317 8050 32 5 120318 8062 32 5 120319",
   "8069 32 5 120320 8099 32 5 120321 8120 32 5 120322 8131 32 5 120323 8156 32 5 120324 8165 32 5",
   "120325 8239 32 5 120326 8248 32 5 120327 8255 32 5 120328 7845 32 11 120329 7859 32 11 120330",
   "7870 32 11 120331 7879 32 11 120332 7892 32 11 120333 7915 32 11 120334 7924 32 11 120335 7936",
   "32 11 120336 7948 32 11 120337 7960 32 11 120338 7967 32 11 120339 7976 32 11 120340 7997 32",
   "11 120341 8006 32 11 120342 8021 32 11 120343 8050 32 11 120344 8062 32 11 120345 8069 32 11",
   "120346 8099 32 11 120347 8120 32 11 120348 8131 32 11 120349 8156 32 11 120350 8165 32 11",
   "120351 8239 32 11 120352 8248 32 11 120353 8255 32 11 120354 7845 32 5 120355 7859 32 5 120356",
   "7870 32 5 120357 7879 32 5 120358 7892 32 5 120359 7915 32 5 120360 7924 32 5 120361 7936 32 5",
   "120362 7948 32 5 120363 7960 32 5 120364 7967 32 5 120365 7976 32 5 120366 7997 32 5 120367",
   "8006 32 5 120368 8021 32 5 120369 8050 32 5 120370 8062 32 5 120371 8069 32 5 120372 8099 32 5",
   "120373 8120 32 5 120374 8131 32 5 120375 8156 32 5 120376 8165 32 5 120377 8239 32 5 120378",
   "8248 32 5 120379 8255 32 5 120380 7845 32 11 120381 7859 32 11 120382 7870 32 11 120383 7879",
   "32 11 120384 7892 32 11 120385 7915 32 11 120386 7924 32 11 120387 7936 32 11 120388 7948 32",
   "11 120389 7960 32 11 120390 7967 32 11 120391 7976 32 11 120392 7997 32 11 120393 8006 32 11",
   "120394 8021 32 11 120395 8050 32 11 120396 8062 32 11 120397 8069 32 11 120398 8099 32 11",
   "120399 8120 32 11 120400 8131 32 11 120401 8156 32 11 120402 8165 32 11 120403 8239 32 11",
   "120404 8248 32 11 120405 8255 32 11 120406 7845 32 5 120407 7859 32 5 120408 7870 32 5 120409",
   "7879 32 5 120410 7892 32 5 120411 7915 32 5 120412 7924 32 5 120413 7936 32 5 120414 7948 32 5",
   "120415 7960 32 5 120416 7967 32 5 120417 7976 32 5 120418 7997 32 5 120419 8006 32 5 120420",
   "8021 32 5 120421 8050 32 5 120422 8062 32 5 120423 8069 32 5 120424 8099 32 5 120425 8120 32 5",
   "120426 8131 32 5 120427 8156 32 5 120428 8165 32 5 120429 8239 32 5 120430 8248 32 5 120431",
   "8255 32 5 120432 7845 32 11 120433 7859 32 11 120434 7870 32 11 120435 7879 32 11 120436 7892",
   "32 11 120437 7915 32 11 120438 7924 32 11 120439 7936 32 11 120440 7948 32 11 120441 7960 32",
   "11 120442 7967 32 11 120443 7976 32 11 120444 7997 32 11 120445 8006 32 11 120446 8021 32 11",
   "120447 8050 32 11 120448 8062 32 11 120449 8069 32 11 120450 8099 32 11 120451 8120 32 11",
   "120452 8131 32 11 120453 8156 32 11 120454 8165 32 11 120455 8239 32 11 120456 8248 32 11",
   "120457 8255 32 11 120458 7845 32 5 120459 7859 32 5 120460 7870 32 5 120461 7879 32 5 120462",
   "7892 32 5 120463 7915 32 5 120464 7924 32 5 120465 7936 32 5 120466 7948 32 5 120467 7960 32 5",
   "120468 7967 32 5 120469 7976 32 5 120470 7997 32 5 120471 8006 32 5 120472 8021 32 5 120473",
   "8050 32 5 120474 8062 32 5 120475 8069 32 5 120476 8099 32 5 120477 8120 32 5 120478 8131 32 5",
   "120479 8156 32 5 120480 8165 32 5 120481 8239 32 5 120482 8248 32 5 120483 8255 32 5 120484",
   "7949 32 5 120485 7961 32 5 120493 8364 32 11 120504 8382 32 11 120505 8367 32 11 120506 8385",
   "32 11 120512 8395 32 11 120513 1183 32 5 120519 8364 32 5 120530 8382 32 5 120538 8395 32 5",
   "120539 1179 32 5 120540 8360 32 5 120541 8367 32 5 120542 8370 32 5 120543 8391 32 5 120544",
   "8382 32 5 120545 8377 32 5 120551 8364 32 11 120562 8382 32 11 120563 8367 32 11 120564 8385",
   "32 11 120570 8395 32 11 120571 1183 32 5 120577 8364 32 5 120588 8382 32 5 120596 8395 32 5",
   "120597 1179 32 5 120598 8360 32 5 120599 8367 32 5 120600 8370 32 5 120601 8391 32 5 120602",
   "8382 32 5 120603 8377 32 5 120609 8364 32 11 120620 8382 32 11 120621 8367 32 11 120622 8385",
   "32 11 120628 8395 32 11 120629 1183 32 5 120635 8364 32 5 120646 8382 32 5 120654 8395 32 5",
   "120655 1179 32 5 120656 8360 32 5 120657 8367 32 5 120658 8370 32 5 120659 8391 32 5 120660",
   "8382 32 5 120661 8377 32 5 120667 8364 32 11 120678 8382 32 11 120679 8367 32 11 120680 8385",
   "32 11 120686 8395 32 11 120687 1183 32 5 120693 8364 32 5 120704 8382 32 5 120712 8395 32 5",
   "120713 1179 32 5 120714 8360 32 5 120715 8367 32 5 120716 8370 32 5 120717 8391 32 5 120718",
   "8382 32 5 120719 8377 32 5 120725 8364 32 11 120736 8382 32 11 120737 8367 32 11 120738 8385",
   "32 11 120744 8395 32 11 120745 1183 32 5 120751 8364 32 5 120762 8382 32 5 120770 8395 32 5",
   "120771 1179 32 5 120772 8360 32 5 120773 8367 32 5 120774 8370 32 5 120775 8391 32 5 120776",
   "8382 32 5 120777 8377 32 5 120778 8361 32 11 120779 8361 32 5 122928 8460 32 20 122932 8470 32",
   "20 122933 8477 32 20 122934 8479 32 20 122935 8483 32 20 122936 8494 32 20 122937 8501 32 20",
   "122938 8509 32 20 122939 8519 32 20 122940 8531 32 20 122941 8533 32 20 122942 8537 32 20",
   "122943 8540 32 20 122944 8543 32 20 122945 8549 32 20 122948 8567 32 20 122949 8572 32 20",
   "122950 8582 32 20 122951 8590 32 20 122954 8491 32 20 122955 8461 32 20 122956 8496 32 20",
   "122957 8499 32 20 122958 8532 32 20 122959 8550 32 20 122960 8616 32 20 122961 8460 32 21",
   "122965 8470 32 21 122966 8477 32 21 122967 8479 32 21 122968 8483 32 21 122969 8494 32 21",
   "122970 8501 32 21 122971 8509 32 21 122972 8531 32 21 122973 8533 32 21 122974 8540 32 21",
   "122975 8549 32 21 122978 8567 32 21 122979 8572 32 21 122980 8582 32 21 122981 8588 32 21",
   "122982 8590 32 21 122984 8496 32 21 122985 8488 32 21 122986 8581 32 21 122987 8542 32 20",
   "122988 8589 32 20 122989 8551 32 20 123023 0 53 2 123184 0 250 2 123185 0 246 2 123186 0 248 2",
   "123187 0 249 2 123188 0 251 2 123189 0 252 2 123190 0 247 2 123566 0 247 2 123628 0 253 2",
   "123629 0 254 2 123630 0 255 2 123631 0 256 2 125255 0 191 2 125256 0 192 2 125257 0 193 2",
   "125258 0 190 2 126464 8914 32 5 126465 8916 32 5 126466 8943 32 5 126467 8964 32 5 126469 9129",
   "32 5 126470 8980 32 5 126471 8953 32 5 126472 9015 32 5 126473 9144 32 5 126474 9046 32 5",
   "126475 9099 32 5 126476 9109 32 5 126477 9113 32 5 126478 8998 32 5 126479 9019 32 5 126480",
   "9028 32 5 126481 9009 32 5 126482 9040 32 5 126483 8979 32 5 126484 8999 32 5 126487 8954 32 5",
   "126488 8965 32 5 126489 9010 32 5 126490 9016 32 5 126491 9020 32 5 126492 8915 32 5 126493",
   "9114 32 5 126494 9029 32 5 126495 9039 32 5 126497 8916 32 5 126498 8943 32 5 126500 9123 32 5",
   "126503 8953 32 5 126505 9144 32 5 126506 9046 32 5 126507 9099 32 5 126508 9109 32 5 126509",
   "9113 32 5 126510 8998 32 5 126511 9019 32 5 126512 9028 32 5 126513 9009 32 5 126514 9040 32 5",
   "126516 8999 32 5 126519 8954 32 5 126521 9010 32 5 126523 9020 32 5 126530 8943 32 5 126535",
   "8953 32 5 126537 9144 32 5 126539 9099 32 5 126541 9113 32 5 126542 8998 32 5 126543 9019 32 5",
   "126545 9009 32 5 126546 9040 32 5 126548 8999 32 5 126551 8954 32 5 126553 9010 32 5 126555",
   "9020 32 5 126557 9114 32 5 126559 9039 32 5 126561 8916 32 5 126562 8943 32 5 126564 9123 32 5",
   "126567 8953 32 5 126568 9015 32 5 126569 9144 32 5 126570 9046 32 5 126572 9109 32 5 126573",
   "9113 32 5 126574 8998 32 5 126575 9019 32 5 126576 9028 32 5 126577 9009 32 5 126578 9040 32 5",
   "126580 8999 32 5 126583 8954 32 5 126585 9010 32 5 126586 9016 32 5 126587 9020 32 5 126588",
   "8915 32 5 126590 9029 32 5 126592 8914 32 5 126593 8916 32 5 126594 8943 32 5 126595 8964 32 5",
   "126596 9123 32 5 126597 9129 32 5 126598 8980 32 5 126599 8953 32 5 126600 9015 32 5 126601",
   "9144 32 5 126603 9099 32 5 126604 9109 32 5 126605 9113 32 5 126606 8998 32 5 126607 9019 32 5",
   "126608 9028 32 5 126609 9009 32 5 126610 9040 32 5 126611 8979 32 5 126612 8999 32 5 126615",
   "8954 32 5 126616 8965 32 5 126617 9010 32 5 126618 9016 32 5 126619 9020 32 5 126625 8916 32 5",
   "126626 8943 32 5 126627 8964 32 5 126629 9129 32 5 126630 8980 32 5 126631 8953 32 5 126632",
   "9015 32 5 126633 9144 32 5 126635 9099 32 5 126636 9109 32 5 126637 9113 32 5 126638 8998 32 5",
   "126639 9019 32 5 126640 9028 32 5 126641 9009 32 5 126642 9040 32 5 126643 8979 32 5 126644",
   "8999 32 5 126647 8954 32 5 126648 8965 32 5 126649 9010 32 5 126650 9016 32 5 126651 9020 32 5",
   "127275 7870 32 12 127276 8069 32 12 127280 7845 32 29 127281 7859 32 29 127282 7870 32 29",
   "127283 7879 32 29 127284 7892 32 29 127285 7915 32 29 127286 7924 32 29 127287 7936 32 29",
   "127288 7948 32 29 127289 7960 32 29 127290 7967 32 29 127291 7976 32 29 127292 7997 32 29",
   "127293 8006 32 29 127294 8021 32 29 127295 8050 32 29 127296 8062 32 29 127297 8069 32 29",
   "127298 8099 32 29 127299 8120 32 29 127300 8131 32 29 127301 8156 32 29 127302 8165 32 29",
   "127303 8239 32 29 127304 8248 32 29 127305 8255 32 29 127312 7845 32 12 127313 7859 32 12",
   "127314 7870 32 12 127315 7879 32 12 127316 7892 32 12 127317 7915 32 12 127318 7924 32 12",
   "127319 7936 32 12 127320 7948 32 12 127321 7960 32 12 127322 7967 32 12 127323 7976 32 12",
   "127324 7997 32 12 127325 8006 32 12 127326 8021 32 12 127327 8050 32 12 127328 8062 32 12",
   "127329 8069 32 12 127330 8099 32 12 127331 8120 32 12 127332 8131 32 12 127333 8156 32 12",
   "127334 8165 32 12 127335 8239 32 12 127336 8248 32 12 127337 8255 32 12 127344 7845 32 29",
   "127345 7859 32 29 127346 7870 32 29 127347 7879 32 29 127348 7892 32 29 127349 7915 32 29",
   "127350 7924 32 29 127351 7936 32 29 127352 7948 32 29 127353 7960 32 29 127354 7967 32 29",
   "127355 7976 32 29 127356 7997 32 29 127357 8006 32 29 127358 8021 32 29 127359 8050 32 29",
   "127360 8062 32 29 127361 8069 32 29 127362 8099 32 29 127363 8120 32 29 127364 8131 32 29",
   "127365 8156 32 29 127366 8165 32 29 127367 8239 32 29 127368 8248 32 29 127369 8255 32 29",
   "127370 8050 32 29 127397 7879 32 28 127490 16362 32 28 127504 8413771 32 28 127505 8411991 32",
   "28 127506 8410060 32 28 127508 8408716 32 28 127509 8411418 32 28 127510 8423907 32 28 127511",
   "8411433 32 28 127512 8408740 32 28 127513 8414752 32 28 127514 8417569 32 28 127515 8414617 32",
   "28 127516 8409677 32 28 127517 8413068 32 28 127518 8409485 32 28 127519 8414640 32 28 127520",
   "8409629 32 28 127521 8420674 32 28 127522 8418591 32 28 127523 8424617 32 28 127524 8411376 32",
   "28 127525 8410169 32 28 127526 8417044 32 28 127527 8413845 32 28 127528 8414037 32 28 127529",
   "8408576 32 28 127530 8408585 32 28 127531 8425546 32 28 127532 8412646 32 28 127533 8408621 32",
   "28 127534 8410099 32 28 127535 8413959 32 28 127536 8424816 32 28 127537 8413779 32 28 127538",
   "8419713 32 28 127539 8419962 32 28 127540 8410120 32 28 127541 8416896 32 28 127542 8414985 32",
   "28 127543 8414984 32 28 127544 8418611 32 28 127545 8409714 32 28 127546 8410550 32 28 127547",
   "8425805 32 28 127568 8413079 32 6 127569 8410095 32 6"]

/-- Code points of one element. -/
def singleRuns : List Run :=
  (Table.rows singleTable).map fun (code, letter, accent, variant) =>
    ⟨code, 1, 0, [⟨letter, accent, variant.toNat⟩]⟩

/-- Runs of first, count, step, number of elements, and their weights. -/
def runsOf : List Int → List Run
  | first :: count :: step :: size :: rest =>
    ⟨first.toNat, count.toNat, step.toNat, elementsOf (rest.take (3 * size.toNat))⟩ ::
      runsOf (rest.drop (3 * size.toNat))
  | _ => []
termination_by row => row.length
decreasing_by simp; omega

/-- Runs of code points that do not count, of accents, and of several elements. -/
def otherRuns : List Run := runsOf (Table.numbers
  ["0 9 0 0 14 18 0 0 127 6 0 0 134 26 0 0 173 1 0 0 178 2 1 1 7837 32 20 188 1 0 3 7836 32 30",
   "1209 32 30 7839 32 30 189 1 0 3 7836 32 30 1209 32 30 7837 32 30 190 1 0 3 7838 32 30 1209 32",
   "30 7839 32 30 198 1 0 3 7845 32 10 0 280 4 7892 32 10 208 1 0 2 7879 32 10 0 280 4 216 1 0 2",
   "8021 32 8 0 47 2 223 1 0 3 8099 32 4 0 280 4 8099 32 4 230 1 0 3 7845 32 4 0 280 4 7892 32 4",
   "240 1 0 2 7879 32 4 0 280 4 248 1 0 2 8021 32 2 0 47 2 272 1 0 2 7879 32 8 0 57 2 273 1 0 2",
   "7879 32 2 0 57 2 294 1 0 2 7936 32 8 0 57 2 295 1 0 2 7936 32 2 0 57 2 306 1 0 2 7948 32 10",
   "7960 32 10 307 1 0 2 7948 32 4 7960 32 4 319 1 0 2 7976 32 8 0 280 2 320 1 0 2 7976 32 2 0 280",
   "2 321 1 0 2 7976 32 8 0 57 2 322 1 0 2 7976 32 2 0 57 2 329 1 0 2 8332 32 4 8006 32 4 338 1 0",
   "3 8021 32 10 0 280 4 7892 32 10 339 1 0 3 8021 32 4 0 280 4 7892 32 4 383 1 0 2 8099 32 4 0",
   "281 4 385 2 1 1 7867 32 8 393 2 1 1 7885 32 8 397 1 0 2 8255 32 4 8165 32 4 446 1 0 2 8120 32",
   "4 8099 32 4 452 1 0 3 7879 32 10 8255 32 10 0 40 4 453 1 0 3 7879 32 10 8255 32 4 0 40 4 454 1",
   "0 3 7879 32 4 8255 32 4 0 40 4 455 1 0 2 7976 32 10 7960 32 10 456 1 0 2 7976 32 10 7960 32 4",
   "457 1 0 2 7976 32 4 7960 32 4 458 1 0 2 8006 32 10 7960 32 10 459 1 0 2 8006 32 10 7960 32 4",
   "460 1 0 2 8006 32 4 7960 32 4 497 1 0 2 7879 32 10 8255 32 10 498 1 0 2 7879 32 10 8255 32 4",
   "499 1 0 2 7879 32 4 8255 32 4 568 1 0 2 7879 32 4 7859 32 4 569 1 0 2 8062 32 4 8050 32 4 675",
   "1 0 2 7879 32 4 8255 32 4 676 1 0 2 7879 32 4 8304 32 4 677 1 0 2 7879 32 4 8300 32 4 678 1 0",
   "2 8120 32 4 8099 32 4 679 1 0 2 8120 32 4 8113 32 4 680 1 0 2 8120 32 4 7876 32 4 681 1 0 2",
   "7915 32 4 8019 32 4 682 1 0 2 7976 32 4 8099 32 4 683 1 0 2 7976 32 4 8255 32 4 781 2 0 1 0 51",
   "2 790 4 0 1 0 52 2 796 5 0 1 0 52 2 809 4 0 1 0 52 2 822 2 0 1 0 53 2 826 3 0 1 0 52 2 829 3 0",
   "1 0 51 2 839 3 0 1 0 52 2 842 3 0 1 0 51 2 845 2 0 1 0 52 2 847 1 0 0 848 3 0 1 0 51 2 851 4 0",
   "1 0 52 2 857 2 0 1 0 52 2 861 2 0 1 0 51 2 913 3 1 1 8355 32 8 916 2 1 1 8359 32 8 919 3 1 1",
   "8366 32 8 922 2 1 1 8370 32 8 924 5 1 1 8373 32 8 932 5 1 1 8389 32 8 975 1 0 3 8370 32 10",
   "8355 32 4 8368 32 4 983 1 0 3 8370 32 4 8355 32 4 8368 32 4 1041 3 1 1 8463 32 8 1060 2 1 1",
   "8554 32 8 1067 2 1 1 8590 32 8 1069 2 1 1 8595 32 8 1160 2 0 0 1168 1 0 2 8465 32 10 0 281 4",
   "1169 1 0 2 8465 32 4 0 281 4 1330 20 1 1 8791 32 8 1350 17 1 1 8812 32 8 1415 1 0 2 8794 32 4",
   "8824 32 4 1425 31 0 0 1465 2 0 1 0 91 2 1469 1 0 0 1476 2 0 0 1519 1 0 4 8839 32 4 8834 32 4",
   "8835 32 4 8834 32 4 1520 1 0 2 8835 32 4 8835 32 4 1521 1 0 2 8835 32 4 8839 32 4 1522 1 0 2",
   "8839 32 4 8839 32 4 1536 6 0 0 1552 11 0 0 1564 1 0 0 1600 1 0 0 1653 1 0 2 8914 32 4 8900 32",
   "4 1654 1 0 2 9129 32 4 8900 32 4 1655 1 0 2 9133 32 4 8900 32 4 1656 1 0 2 9144 32 4 8900 32 4",
   "1750 8 0 0 1759 6 0 0 1767 2 0 0 1770 4 0 0 1789 1 0 2 8900 32 4 0 281 4 1790 1 0 2 9109 32 4",
   "0 281 4 1807 1 0 0 1812 1 0 2 9163 32 4 0 281 4 1820 1 0 2 9171 32 4 0 281 4 1831 1 0 2 9181",
   "32 4 0 281 4 1837 1 0 2 9162 32 4 0 282 4 1838 1 0 2 9163 32 4 0 282 4 1839 1 0 2 9165 32 4 0",
   "282 4 1856 1 0 0 1859 2 0 0 1863 4 0 0 2024 1 0 2 9286 32 4 0 280 4 2025 1 0 2 9287 32 4 0 280",
   "4 2026 1 0 2 9289 32 4 0 280 4 2042 1 0 0 2076 2 0 1 0 98 2 2078 3 0 1 0 99 2 2081 3 0 1 0 100",
   "2 2084 2 0 1 0 101 2 2086 2 0 1 0 102 2 2088 3 0 1 0 103 2 2137 3 0 1 0 52 2 2192 2 0 0 2200 8",
   "0 1 0 52 2 2250 9 0 1 0 52 2 2259 16 0 0 2282 6 0 0 2291 1 0 0 2304 2 0 1 0 195 2 2385 2 0 0",
   "2510 1 0 2 9976 32 4 10009 32 4 2813 3 0 1 0 194 2 3072 2 0 1 0 195 2 3387 2 0 1 10479 32 4",
   "3406 1 0 2 10450 32 4 10479 32 4 3412 1 0 2 10448 32 4 10479 32 4 3413 1 0 2 10449 32 4 10479",
   "32 4 3414 1 0 2 10458 32 4 10479 32 4 3450 1 0 2 10437 32 4 10479 32 4 3451 1 0 2 10442 32 4",
   "10479 32 4 3452 1 0 2 10450 32 4 10479 32 4 3453 1 0 2 10451 32 4 10479 32 4 3454 1 0 2 10457",
   "32 4 10479 32 4 3455 1 0 2 10423 32 4 10479 32 4 3804 1 0 2 12079 32 4 12064 32 4 3805 1 0 2",
   "12079 32 4 12072 32 4 3840 1 0 3 12240 32 4 12263 32 4 0 196 4 3864 2 0 0 3882 9 1 1 7836 32 4",
   "3893 1 0 0 3895 1 0 0 3902 2 0 0 3946 1 0 2 12227 32 4 0 281 4 3970 2 0 0 3974 2 0 0 4026 1 0",
   "2 12218 32 4 0 281 4 4027 1 0 2 12226 32 4 0 281 4 4028 1 0 2 12228 32 4 0 281 4 4038 1 0 0",
   "4159 1 0 3 12925 32 4 12982 32 4 12925 32 4 5024 86 1 1 13776 32 8 5793 1 0 2 14647 32 4 0 280",
   "4 5796 1 0 2 14648 32 4 0 280 4 5797 1 0 2 14648 32 4 0 281 4 5799 1 0 2 14649 32 4 0 280 4",
   "5801 1 0 2 14650 32 4 0 280 4 5804 1 0 2 14650 32 4 0 281 4 5805 1 0 2 14650 32 4 0 282 4 5806",
   "1 0 2 14650 32 4 0 283 4 5811 1 0 2 14655 32 4 0 280 4 5812 1 0 2 14655 32 4 0 281 4 5813 1 0",
   "2 14655 32 4 0 282 4 5814 1 0 2 14655 32 4 0 283 4 5819 1 0 2 14659 32 4 0 280 4 5820 1 0 2",
   "14659 32 4 0 281 4 5821 1 0 2 14659 32 4 0 282 4 5823 1 0 2 14660 32 4 0 280 4 5824 1 0 2",
   "14660 32 4 0 281 4 5826 1 0 2 14661 32 4 0 280 4 5828 1 0 2 14663 32 4 0 280 4 5830 1 0 2",
   "14664 32 4 0 280 4 5835 1 0 2 14668 32 4 0 280 4 5836 1 0 2 14668 32 4 0 282 4 5837 1 0 2",
   "14668 32 4 0 283 4 5838 1 0 2 14668 32 4 0 284 4 5840 1 0 2 14670 32 4 0 280 4 5841 1 0 2",
   "14670 32 4 0 281 4 5843 1 0 2 14671 32 4 0 280 4 5844 1 0 2 14671 32 4 0 281 4 5845 1 0 2",
   "14666 32 4 0 280 4 5848 1 0 2 14674 32 4 0 280 4 5849 1 0 2 14674 32 4 0 281 4 5851 1 0 2",
   "14675 32 4 0 280 4 5853 1 0 2 14676 32 4 0 280 4 5863 1 0 2 14692 32 4 0 280 4 5864 1 0 2",
   "14692 32 4 0 281 4 5865 1 0 2 14658 32 4 0 280 4 5866 1 0 2 14668 32 4 0 281 4 5870 1 0 2",
   "14664 32 4 14675 32 4 5871 1 0 4 14674 32 4 0 280 4 14674 32 4 0 280 4 5872 1 0 2 14649 32 4",
   "14649 32 4 6068 2 0 0 6091 7 0 1 0 51 2 6099 1 0 0 6154 6 0 0 6429 1 0 2 12557 32 4 12587 32 4",
   "6430 1 0 2 12560 32 4 12588 32 4 6622 1 0 2 13230 32 4 13252 32 4 6623 1 0 3 13230 32 4 13252",
   "32 4 13263 32 4 6740 1 0 3 13310 32 4 13348 32 4 13310 32 4 6744 2 0 1 13278 32 4 6746 2 0 1",
   "13299 32 4 6783 1 0 0 6832 5 0 1 0 51 2 6837 6 0 1 0 52 2 6843 2 0 1 0 51 2 6849 14 0 1 0 54 2",
   "6912 2 0 1 0 195 2 7019 9 0 0 7107 2 0 1 12733 32 4 7116 2 0 1 12737 32 4 7129 2 0 1 12744 32",
   "4 7300 2 0 1 8543 32 4 7350 2 1 1 8779 32 8 7352 3 1 1 8782 32 8 7358 2 1 1 8787 32 8 7376 25",
   "0 0 7402 3 0 1 9915 32 4 7406 4 0 1 9915 32 4 7410 2 0 1 0 197 2 7412 1 0 0 7415 3 0 0 7469 1",
   "0 3 7845 32 20 0 280 20 7892 32 20 7492 2 1 1 7853 32 20 7508 2 1 1 8041 32 20 7517 2 1 1 8356",
   "32 20 7520 2 1 1 8391 32 20 7526 2 1 1 8356 32 21 7529 2 1 1 8391 32 21 7545 1 0 2 7924 32 4 0",
   "281 4 7546 1 0 3 8120 32 4 0 280 4 7936 32 4 7582 1 0 2 7879 32 20 0 280 20 7612 2 1 1 8299 32",
   "20 7616 2 0 1 0 51 2 7619 7 0 1 0 51 2 7627 4 0 1 0 51 2 7631 2 0 1 0 52 2 7635 1 0 2 7845 32",
   "4 0 280 4 7636 1 0 3 7845 32 4 0 280 4 7892 32 4 7637 1 0 2 7845 32 4 8021 32 4 7638 1 0 2",
   "7845 32 4 8156 32 4 7639 1 0 2 7870 32 4 0 48 4 7640 1 0 2 7879 32 4 0 281 4 7641 1 0 2 7879",
   "32 4 0 280 4 7645 2 1 1 7976 32 4 7648 2 1 1 8006 32 4 7653 1 0 2 8099 32 4 0 281 4 7661 1 0 2",
   "8021 32 4 0 52 4 7664 1 0 2 8131 32 4 0 52 4 7666 1 0 2 7845 32 4 0 43 4 7667 1 0 2 8021 32 4",
   "0 43 4 7668 1 0 2 8131 32 4 0 43 4 7669 4 0 1 0 51 2 7673 2 0 1 0 52 2 7676 2 0 1 0 52 2 7834",
   "1 0 2 7845 32 4 8334 32 4 7838 1 0 3 8099 32 10 0 280 4 8099 32 10 7930 1 0 2 7976 32 10 7976",
   "32 10 7931 1 0 2 7976 32 4 7976 32 4 8194 5 0 1 10 32 4 8200 3 0 1 10 32 4 8203 5 0 0 8229 1 0",
   "2 133 32 4 133 32 4 8230 1 0 3 133 32 4 133 32 4 133 32 4 8234 5 0 0 8243 1 0 2 481 32 4 481",
   "32 4 8244 1 0 3 481 32 4 481 32 4 481 32 4 8246 1 0 2 482 32 4 482 32 4 8247 1 0 3 482 32 4",
   "482 32 4 482 32 4 8252 1 0 2 107 32 4 107 32 4 8263 1 0 2 114 32 4 114 32 4 8264 1 0 2 114 32",
   "4 107 32 4 8265 1 0 2 107 32 4 114 32 4 8279 1 0 4 481 32 4 481 32 4 481 32 4 481 32 4 8288 5",
   "0 0 8294 10 0 0 8308 6 1 1 7839 32 20 8317 2 1 1 330 32 20 8320 10 1 1 7835 32 21 8333 2 1 1",
   "330 32 21 8402 2 0 1 0 267 2 8408 3 0 1 0 53 2 8413 4 0 1 0 54 2 8418 3 0 1 0 54 2 8426 2 0 1",
   "0 53 2 8428 4 0 1 0 52 2 8448 1 0 3 7845 32 4 456 32 4 7870 32 4 8449 1 0 3 7845 32 4 456 32 4",
   "8099 32 4 8451 1 0 2 856 32 4 7870 32 10 8453 1 0 3 7870 32 4 456 32 4 8021 32 4 8454 1 0 3",
   "7870 32 4 456 32 4 8131 32 4 8457 1 0 2 856 32 4 7915 32 10 8459 3 0 1 7936 32 11 8463 1 0 2",
   "7936 32 2 0 57 2 8464 2 0 1 7948 32 11 8470 1 0 2 8006 32 10 8021 32 4 8475 3 0 1 8069 32 11",
   "8480 1 0 2 8099 32 20 7997 32 20 8481 1 0 3 8120 32 10 7892 32 10 7976 32 10 8482 1 0 2 8120",
   "32 20 7997 32 20 8501 4 1 1 8830 32 4 8507 1 0 3 7915 32 10 7845 32 10 8239 32 10 8525 1 0 3",
   "7845 32 10 456 32 4 8099 32 10 8528 1 0 3 7836 32 30 1209 32 30 7842 32 30 8529 1 0 3 7836 32",
   "30 1209 32 30 7844 32 30 8530 1 0 4 7836 32 30 1209 32 30 7836 32 30 7835 32 30 8531 1 0 3",
   "7836 32 30 1209 32 30 7838 32 30 8532 1 0 3 7837 32 30 1209 32 30 7838 32 30 8533 1 0 3 7836",
   "32 30 1209 32 30 7840 32 30 8534 1 0 3 7837 32 30 1209 32 30 7840 32 30 8535 1 0 3 7838 32 30",
   "1209 32 30 7840 32 30 8536 1 0 3 7839 32 30 1209 32 30 7840 32 30 8537 1 0 3 7836 32 30 1209",
   "32 30 7841 32 30 8538 1 0 3 7840 32 30 1209 32 30 7841 32 30 8539 1 0 3 7836 32 30 1209 32 30",
   "7843 32 30 8540 1 0 3 7838 32 30 1209 32 30 7843 32 30 8541 1 0 3 7840 32 30 1209 32 30 7843",
   "32 30 8542 1 0 3 7842 32 30 1209 32 30 7843 32 30 8543 1 0 2 7836 32 30 1209 32 30 8545 1 0 2",
   "7948 32 10 7948 32 10 8546 1 0 3 7948 32 10 7948 32 10 7948 32 10 8547 1 0 2 7948 32 10 8156",
   "32 10 8549 1 0 2 8156 32 10 7948 32 10 8550 1 0 3 8156 32 10 7948 32 10 7948 32 10 8551 1 0 4",
   "8156 32 10 7948 32 10 7948 32 10 7948 32 10 8552 1 0 2 7948 32 10 8239 32 10 8554 1 0 2 8239",
   "32 10 7948 32 10 8555 1 0 3 8239 32 10 7948 32 10 7948 32 10 8561 1 0 2 7948 32 4 7948 32 4",
   "8562 1 0 3 7948 32 4 7948 32 4 7948 32 4 8563 1 0 2 7948 32 4 8156 32 4 8565 1 0 2 8156 32 4",
   "7948 32 4 8566 1 0 3 8156 32 4 7948 32 4 7948 32 4 8567 1 0 4 8156 32 4 7948 32 4 7948 32 4",
   "7948 32 4 8568 1 0 2 7948 32 4 8239 32 4 8570 1 0 2 8239 32 4 7948 32 4 8571 1 0 3 8239 32 4",
   "7948 32 4 7948 32 4 8585 1 0 3 7835 32 30 1209 32 30 7838 32 30 8748 1 0 2 1231 32 4 1231 32 4",
   "8749 1 0 3 1231 32 4 1231 32 4 1231 32 4 8751 1 0 2 1232 32 4 1232 32 4 8752 1 0 3 1232 32 4",
   "1232 32 4 1232 32 4 9312 9 1 1 7836 32 6 9321 1 0 2 7836 32 6 7835 32 6 9322 1 0 2 7836 32 6",
   "7836 32 6 9323 1 0 2 7836 32 6 7837 32 6 9324 1 0 2 7836 32 6 7838 32 6 9325 1 0 2 7836 32 6",
   "7839 32 6 9326 1 0 2 7836 32 6 7840 32 6 9327 1 0 2 7836 32 6 7841 32 6 9328 1 0 2 7836 32 6",
   "7842 32 6 9329 1 0 2 7836 32 6 7843 32 6 9330 1 0 2 7836 32 6 7844 32 6 9331 1 0 2 7837 32 6",
   "7835 32 6 9332 1 0 3 330 32 4 7836 32 4 331 32 4 9333 1 0 3 330 32 4 7837 32 4 331 32 4 9334 1",
   "0 3 330 32 4 7838 32 4 331 32 4 9335 1 0 3 330 32 4 7839 32 4 331 32 4 9336 1 0 3 330 32 4",
   "7840 32 4 331 32 4 9337 1 0 3 330 32 4 7841 32 4 331 32 4 9338 1 0 3 330 32 4 7842 32 4 331 32",
   "4 9339 1 0 3 330 32 4 7843 32 4 331 32 4 9340 1 0 3 330 32 4 7844 32 4 331 32 4 9341 1 0 4 330",
   "32 4 7836 32 4 7835 32 4 331 32 4 9342 1 0 4 330 32 4 7836 32 4 7836 32 4 331 32 4 9343 1 0 4",
   "330 32 4 7836 32 4 7837 32 4 331 32 4 9344 1 0 4 330 32 4 7836 32 4 7838 32 4 331 32 4 9345 1",
   "0 4 330 32 4 7836 32 4 7839 32 4 331 32 4 9346 1 0 4 330 32 4 7836 32 4 7840 32 4 331 32 4",
   "9347 1 0 4 330 32 4 7836 32 4 7841 32 4 331 32 4 9348 1 0 4 330 32 4 7836 32 4 7842 32 4 331",
   "32 4 9349 1 0 4 330 32 4 7836 32 4 7843 32 4 331 32 4 9350 1 0 4 330 32 4 7836 32 4 7844 32 4",
   "331 32 4 9351 1 0 4 330 32 4 7837 32 4 7835 32 4 331 32 4 9352 1 0 2 7836 32 4 133 32 4 9353 1",
   "0 2 7837 32 4 133 32 4 9354 1 0 2 7838 32 4 133 32 4 9355 1 0 2 7839 32 4 133 32 4 9356 1 0 2",
   "7840 32 4 133 32 4 9357 1 0 2 7841 32 4 133 32 4 9358 1 0 2 7842 32 4 133 32 4 9359 1 0 2 7843",
   "32 4 133 32 4 9360 1 0 2 7844 32 4 133 32 4 9361 1 0 3 7836 32 4 7835 32 4 133 32 4 9362 1 0 3",
   "7836 32 4 7836 32 4 133 32 4 9363 1 0 3 7836 32 4 7837 32 4 133 32 4 9364 1 0 3 7836 32 4 7838",
   "32 4 133 32 4 9365 1 0 3 7836 32 4 7839 32 4 133 32 4 9366 1 0 3 7836 32 4 7840 32 4 133 32 4",
   "9367 1 0 3 7836 32 4 7841 32 4 133 32 4 9368 1 0 3 7836 32 4 7842 32 4 133 32 4 9369 1 0 3",
   "7836 32 4 7843 32 4 133 32 4 9370 1 0 3 7836 32 4 7844 32 4 133 32 4 9371 1 0 3 7837 32 4 7835",
   "32 4 133 32 4 9372 1 0 3 330 32 4 7845 32 4 331 32 4 9373 1 0 3 330 32 4 7859 32 4 331 32 4",
   "9374 1 0 3 330 32 4 7870 32 4 331 32 4 9375 1 0 3 330 32 4 7879 32 4 331 32 4 9376 1 0 3 330",
   "32 4 7892 32 4 331 32 4 9377 1 0 3 330 32 4 7915 32 4 331 32 4 9378 1 0 3 330 32 4 7924 32 4",
   "331 32 4 9379 1 0 3 330 32 4 7936 32 4 331 32 4 9380 1 0 3 330 32 4 7948 32 4 331 32 4 9381 1",
   "0 3 330 32 4 7960 32 4 331 32 4 9382 1 0 3 330 32 4 7967 32 4 331 32 4 9383 1 0 3 330 32 4",
   "7976 32 4 331 32 4 9384 1 0 3 330 32 4 7997 32 4 331 32 4 9385 1 0 3 330 32 4 8006 32 4 331 32",
   "4 9386 1 0 3 330 32 4 8021 32 4 331 32 4 9387 1 0 3 330 32 4 8050 32 4 331 32 4 9388 1 0 3 330",
   "32 4 8062 32 4 331 32 4 9389 1 0 3 330 32 4 8069 32 4 331 32 4 9390 1 0 3 330 32 4 8099 32 4",
   "331 32 4 9391 1 0 3 330 32 4 8120 32 4 331 32 4 9392 1 0 3 330 32 4 8131 32 4 331 32 4 9393 1",
   "0 3 330 32 4 8156 32 4 331 32 4 9394 1 0 3 330 32 4 8165 32 4 331 32 4 9395 1 0 3 330 32 4",
   "8239 32 4 331 32 4 9396 1 0 3 330 32 4 8248 32 4 331 32 4 9397 1 0 3 330 32 4 8255 32 4 331 32",
   "4 9451 1 0 2 7836 32 6 7836 32 6 9452 1 0 2 7836 32 6 7837 32 6 9453 1 0 2 7836 32 6 7838 32 6",
   "9454 1 0 2 7836 32 6 7839 32 6 9455 1 0 2 7836 32 6 7840 32 6 9456 1 0 2 7836 32 6 7841 32 6",
   "9457 1 0 2 7836 32 6 7842 32 6 9458 1 0 2 7836 32 6 7843 32 6 9459 1 0 2 7836 32 6 7844 32 6",
   "9460 1 0 2 7837 32 6 7835 32 6 9461 9 1 1 7836 32 6 9470 1 0 2 7836 32 6 7835 32 6 10102 9 1 1",
   "7836 32 6 10111 1 0 2 7836 32 6 7835 32 6 10112 9 1 1 7836 32 6 10121 1 0 2 7836 32 6 7835 32",
   "6 10122 9 1 1 7836 32 6 10131 1 0 2 7836 32 6 7835 32 6 10764 1 0 4 1231 32 4 1231 32 4 1231",
   "32 4 1231 32 4 10868 1 0 3 68 32 4 68 32 4 1198 32 4 10869 1 0 2 1198 32 4 1198 32 4 10870 1 0",
   "3 1198 32 4 1198 32 4 1198 32 4 11264 48 1 1 8617 32 8 11492 1 0 3 8411 32 4 8400 32 4 8410 32",
   "4 11647 1 0 0 11744 3 1 1 8463 32 4 11765 1 0 2 8540 32 4 8543 32 4 11904 1 0 2 8408630 32 4 0",
   "280 4 11905 1 0 2 8409986 32 4 0 280 4 11908 1 0 2 8408665 32 4 0 280 4 11910 1 0 2 8409474 32",
   "4 0 280 4 11911 1 0 2 8409568 32 4 0 280 4 11912 1 0 2 8409600 32 4 0 280 4 11914 1 0 2",
   "8409948 32 4 0 280 4 11915 1 0 2 8409961 32 4 0 280 4 11916 1 0 2 8412175 32 4 0 280 4 11917 1",
   "0 2 8412175 32 4 0 281 4 11918 1 0 2 8412194 32 4 0 280 4 11921 1 0 2 8412195 32 4 0 280 4",
   "11925 1 0 2 8413008 32 4 0 280 4 11927 1 0 2 8413123 32 4 0 280 4 11932 1 0 2 8414693 32 4 0",
   "280 4 11933 1 0 2 8414984 32 4 0 280 4 11934 1 0 2 8416122 32 4 0 280 4 11941 1 0 2 8417835 32",
   "4 0 280 4 11943 1 0 2 8417883 32 4 0 280 4 11945 1 0 2 8418187 32 4 0 280 4 11946 1 0 2",
   "8418699 32 4 0 280 4 11947 1 0 2 8419054 32 4 0 280 4 11948 1 0 2 8419642 32 4 0 280 4 11950 1",
   "0 2 8420089 32 4 0 280 4 11955 1 0 2 8421203 32 4 0 280 4 11956 1 0 2 8421203 32 4 0 281 4",
   "11957 1 0 2 8421202 32 4 0 280 4 11958 1 0 2 8421258 32 4 0 280 4 11959 1 0 2 8421258 32 4 0",
   "281 4 11963 1 0 2 8421503 32 4 0 280 4 11964 1 0 2 8421513 32 4 0 280 4 11965 1 0 2 8421884 32",
   "4 0 280 4 11967 1 0 2 8422009 32 4 0 280 4 11968 1 0 2 8422009 32 4 0 281 4 11975 1 0 2",
   "8423890 32 4 0 280 4 11978 1 0 2 8424883 32 4 0 280 4 11981 1 0 2 8425398 32 4 0 280 4 11982 1",
   "0 2 8425398 32 4 0 281 4 11983 1 0 2 8425617 32 4 0 280 4 11985 2 1 1 8426871 32 4 11989 1 0 2",
   "8427036 32 4 0 280 4 11991 1 0 2 8427240 32 4 0 280 4 11996 2 1 1 8427742 32 4 11998 1 0 2",
   "8427744 32 4 0 280 4 12001 1 0 2 8427926 32 4 0 280 4 12003 1 0 2 8428200 32 4 0 280 4 12004 1",
   "0 2 8428348 32 4 0 280 4 12007 1 0 2 8429173 32 4 0 280 4 12011 1 0 2 8429386 32 4 0 280 4",
   "12013 1 0 2 8429394 32 4 0 280 4 12015 1 0 2 8429453 32 4 0 280 4 12017 1 0 2 8429468 32 4 0",
   "280 4 12018 1 0 2 8429468 32 4 0 281 4 12294 1 0 2 16363 32 4 16385 32 4 12338 1 0 2 7277 32 2",
   "0 55 2 12340 1 0 2 7278 32 2 0 55 2 12345 2 1 1 8409924 32 4 12348 1 0 2 16382 32 4 16364 32 4",
   "12362 2 1 1 16356 32 14 12394 6 1 1 16372 32 14 12414 5 1 1 16382 32 14 12424 6 1 1 16389 32",
   "14 12431 5 1 1 16395 32 14 12447 1 0 2 16389 32 22 16391 32 22 12458 2 1 1 16356 32 17 12490 6",
   "1 1 16372 32 17 12510 5 1 1 16382 32 17 12520 6 1 1 16389 32 17 12527 5 1 1 16395 32 17 12543",
   "1 0 2 16361 32 22 16371 32 22 12593 2 1 1 15991 32 4 12597 2 1 1 16215 32 4 12599 3 1 1 15994",
   "32 4 12602 6 1 1 16219 32 4 12609 3 1 1 15997 32 4 12613 10 1 1 16000 32 4 12623 21 1 1 16117",
   "32 4 12645 2 1 1 16011 32 4 12647 2 1 1 16242 32 4 12657 2 1 1 16020 32 4 12660 2 1 1 16025 32",
   "4 12664 5 1 1 16034 32 4 12674 2 1 1 16284 32 4 12676 3 1 1 16078 32 4 12679 2 1 1 16152 32 4",
   "12682 2 1 1 16165 32 4 12704 1 0 2 16700 32 4 0 281 4 12705 1 0 2 16726 32 4 0 281 4 12706 1 0",
   "2 16716 32 4 0 281 4 12707 1 0 2 16711 32 4 0 281 4 12709 1 0 2 16737 32 4 0 281 4 12711 1 0 2",
   "16733 32 4 0 281 4 12712 1 0 2 16751 32 4 0 282 4 12713 1 0 2 16732 32 4 0 281 4 12714 1 0 2",
   "16750 32 4 0 281 4 12715 1 0 2 16751 32 4 0 281 4 12718 1 0 2 16738 32 4 0 281 4 12719 1 0 2",
   "16740 32 4 0 281 4 12723 1 0 2 16750 32 22 0 281 22 12785 2 1 1 16363 32 15 12789 5 1 1 16377",
   "32 15 12795 5 1 1 16390 32 15 12800 1 0 3 330 32 4 15991 32 4 331 32 4 12801 1 0 3 330 32 4",
   "15993 32 4 331 32 4 12802 1 0 3 330 32 4 15994 32 4 331 32 4 12803 1 0 3 330 32 4 15996 32 4",
   "331 32 4 12804 1 0 3 330 32 4 15997 32 4 331 32 4 12805 1 0 3 330 32 4 15998 32 4 331 32 4",
   "12806 1 0 3 330 32 4 16000 32 4 331 32 4 12807 1 0 3 330 32 4 16002 32 4 331 32 4 12808 1 0 3",
   "330 32 4 16003 32 4 331 32 4 12809 1 0 3 330 32 4 16005 32 4 331 32 4 12810 1 0 3 330 32 4",
   "16006 32 4 331 32 4 12811 1 0 3 330 32 4 16007 32 4 331 32 4 12812 1 0 3 330 32 4 16008 32 4",
   "331 32 4 12813 1 0 3 330 32 4 16009 32 4 331 32 4 12814 1 0 4 330 32 4 15991 32 4 16117 32 4",
   "331 32 4 12815 1 0 4 330 32 4 15993 32 4 16117 32 4 331 32 4 12816 1 0 4 330 32 4 15994 32 4",
   "16117 32 4 331 32 4 12817 1 0 4 330 32 4 15996 32 4 16117 32 4 331 32 4 12818 1 0 4 330 32 4",
   "15997 32 4 16117 32 4 331 32 4 12819 1 0 4 330 32 4 15998 32 4 16117 32 4 331 32 4 12820 1 0 4",
   "330 32 4 16000 32 4 16117 32 4 331 32 4 12821 1 0 4 330 32 4 16002 32 4 16117 32 4 331 32 4",
   "12822 1 0 4 330 32 4 16003 32 4 16117 32 4 331 32 4 12823 1 0 4 330 32 4 16005 32 4 16117 32 4",
   "331 32 4 12824 1 0 4 330 32 4 16006 32 4 16117 32 4 331 32 4 12825 1 0 4 330 32 4 16007 32 4",
   "16117 32 4 331 32 4 12826 1 0 4 330 32 4 16008 32 4 16117 32 4 331 32 4 12827 1 0 4 330 32 4",
   "16009 32 4 16117 32 4 331 32 4 12828 1 0 4 330 32 4 16003 32 4 16130 32 4 331 32 4 12829 1 0 7",
   "330 32 4 16002 32 4 16125 32 4 16003 32 4 16121 32 4 16214 32 4 331 32 4 12830 1 0 6 330 32 4",
   "16002 32 4 16125 32 4 16009 32 4 16130 32 4 331 32 4 12832 1 0 3 330 32 4 8408576 32 4 331 32",
   "4 12833 1 0 3 330 32 4 8408716 32 4 331 32 4 12834 1 0 3 330 32 4 8408585 32 4 331 32 4 12835",
   "1 0 3 330 32 4 8410843 32 4 331 32 4 12836 1 0 3 330 32 4 8408724 32 4 331 32 4 12837 1 0 3",
   "330 32 4 8409453 32 4 331 32 4 12838 1 0 3 330 32 4 8408579 32 4 331 32 4 12839 1 0 3 330 32 4",
   "8409451 32 4 331 32 4 12840 1 0 3 330 32 4 8408669 32 4 331 32 4 12841 1 0 3 330 32 4 8409921",
   "32 4 331 32 4 12842 1 0 3 330 32 4 8414984 32 4 331 32 4 12843 1 0 3 330 32 4 8417387 32 4 331",
   "32 4 12844 1 0 3 330 32 4 8416308 32 4 331 32 4 12845 1 0 3 330 32 4 8415016 32 4 331 32 4",
   "12846 1 0 3 330 32 4 8425937 32 4 331 32 4 12847 1 0 3 330 32 4 8410911 32 4 331 32 4 12848 1",
   "0 3 330 32 4 8414693 32 4 331 32 4 12849 1 0 3 330 32 4 8415274 32 4 331 32 4 12850 1 0 3 330",
   "32 4 8414985 32 4 331 32 4 12851 1 0 3 330 32 4 8419646 32 4 331 32 4 12852 1 0 3 330 32 4",
   "8410125 32 4 331 32 4 12853 1 0 3 330 32 4 8417913 32 4 331 32 4 12854 1 0 3 330 32 4 8424609",
   "32 4 331 32 4 12855 1 0 3 330 32 4 8419677 32 4 331 32 4 12856 1 0 3 330 32 4 8409780 32 4 331",
   "32 4 12857 1 0 3 330 32 4 8408803 32 4 331 32 4 12858 1 0 3 330 32 4 8410236 32 4 331 32 4",
   "12859 1 0 3 330 32 4 8412006 32 4 331 32 4 12860 1 0 3 330 32 4 8419043 32 4 331 32 4 12861 1",
   "0 3 330 32 4 8408833 32 4 331 32 4 12862 1 0 3 330 32 4 8424647 32 4 331 32 4 12863 1 0 3 330",
   "32 4 8409940 32 4 331 32 4 12864 1 0 3 330 32 4 8419693 32 4 331 32 4 12865 1 0 3 330 32 4",
   "8408849 32 4 331 32 4 12866 1 0 3 330 32 4 8421866 32 4 331 32 4 12867 1 0 3 330 32 4 8421875",
   "32 4 331 32 4 12872 1 0 2 7836 32 6 7835 32 6 12873 1 0 2 7837 32 6 7835 32 6 12874 1 0 2 7838",
   "32 6 7835 32 6 12875 1 0 2 7839 32 6 7835 32 6 12876 1 0 2 7840 32 6 7835 32 6 12877 1 0 2",
   "7841 32 6 7835 32 6 12878 1 0 2 7842 32 6 7835 32 6 12879 1 0 2 7843 32 6 7835 32 6 12880 1 0",
   "3 8050 32 29 8120 32 29 7892 32 29 12881 1 0 2 7837 32 6 7836 32 6 12882 1 0 2 7837 32 6 7837",
   "32 6 12883 1 0 2 7837 32 6 7838 32 6 12884 1 0 2 7837 32 6 7839 32 6 12885 1 0 2 7837 32 6",
   "7840 32 6 12886 1 0 2 7837 32 6 7841 32 6 12887 1 0 2 7837 32 6 7842 32 6 12888 1 0 2 7837 32",
   "6 7843 32 6 12889 1 0 2 7837 32 6 7844 32 6 12890 1 0 2 7838 32 6 7835 32 6 12891 1 0 2 7838",
   "32 6 7836 32 6 12892 1 0 2 7838 32 6 7837 32 6 12893 1 0 2 7838 32 6 7838 32 6 12894 1 0 2",
   "7838 32 6 7839 32 6 12895 1 0 2 7838 32 6 7840 32 6 12897 2 1 1 15993 32 6 12899 3 1 1 15996",
   "32 6 12903 2 1 1 16002 32 6 12905 5 1 1 16005 32 6 12910 1 0 2 15991 32 6 16117 32 6 12911 1 0",
   "2 15993 32 6 16117 32 6 12912 1 0 2 15994 32 6 16117 32 6 12913 1 0 2 15996 32 6 16117 32 6",
   "12914 1 0 2 15997 32 6 16117 32 6 12915 1 0 2 15998 32 6 16117 32 6 12916 1 0 2 16000 32 6",
   "16117 32 6 12917 1 0 2 16002 32 6 16117 32 6 12918 1 0 2 16003 32 6 16117 32 6 12919 1 0 2",
   "16005 32 6 16117 32 6 12920 1 0 2 16006 32 6 16117 32 6 12921 1 0 2 16007 32 6 16117 32 6",
   "12922 1 0 2 16008 32 6 16117 32 6 12923 1 0 2 16009 32 6 16117 32 6 12924 1 0 5 16005 32 6",
   "16117 32 6 16226 32 6 15991 32 6 16125 32 6 12925 1 0 4 16003 32 6 16130 32 6 16002 32 6 16136",
   "32 6 12926 1 0 2 16002 32 6 16130 32 6 12977 1 0 2 7838 32 6 7841 32 6 12978 1 0 2 7838 32 6",
   "7842 32 6 12979 1 0 2 7838 32 6 7843 32 6 12980 1 0 2 7838 32 6 7844 32 6 12981 1 0 2 7839 32",
   "6 7835 32 6 12982 1 0 2 7839 32 6 7836 32 6 12983 1 0 2 7839 32 6 7837 32 6 12984 1 0 2 7839",
   "32 6 7838 32 6 12985 1 0 2 7839 32 6 7839 32 6 12986 1 0 2 7839 32 6 7840 32 6 12987 1 0 2",
   "7839 32 6 7841 32 6 12988 1 0 2 7839 32 6 7842 32 6 12989 1 0 2 7839 32 6 7843 32 6 12990 1 0",
   "2 7839 32 6 7844 32 6 12991 1 0 2 7840 32 6 7835 32 6 12992 1 0 2 7836 32 4 8414984 32 4 12993",
   "1 0 2 7837 32 4 8414984 32 4 12994 1 0 2 7838 32 4 8414984 32 4 12995 1 0 2 7839 32 4 8414984",
   "32 4 12996 1 0 2 7840 32 4 8414984 32 4 12997 1 0 2 7841 32 4 8414984 32 4 12998 1 0 2 7842 32",
   "4 8414984 32 4 12999 1 0 2 7843 32 4 8414984 32 4 13000 1 0 2 7844 32 4 8414984 32 4 13001 1 0",
   "3 7836 32 4 7835 32 4 8414984 32 4 13002 1 0 3 7836 32 4 7836 32 4 8414984 32 4 13003 1 0 3",
   "7836 32 4 7837 32 4 8414984 32 4 13004 1 0 2 7936 32 29 7924 32 28 13005 1 0 3 7892 32 28 8069",
   "32 28 7924 32 28 13006 1 0 2 7892 32 28 8156 32 29 13007 1 0 3 7976 32 29 8120 32 29 7879 32",
   "29 13008 3 1 1 16348 32 19 13011 44 1 1 16355 32 19 13055 1 0 2 8408804 32 28 8410252 32 28",
   "13056 1 0 5 16348 32 28 16377 32 28 0 56 28 7281 32 28 16371 32 28 13057 1 0 4 16348 32 28",
   "16392 32 28 16379 32 28 16348 32 28 13058 1 0 5 16348 32 28 16399 32 28 16380 32 28 0 56 28",
   "16348 32 28 13059 1 0 3 16348 32 28 7281 32 28 16392 32 28 13060 1 0 5 16349 32 28 16373 32 28",
   "16399 32 28 16359 32 28 0 55 28 13061 1 0 3 16349 32 28 16399 32 28 16368 32 28 13062 1 0 3",
   "16350 32 28 16356 32 28 16399 32 28 13063 1 0 6 16355 32 28 16364 32 28 16359 32 28 7281 32 28",
   "16371 32 28 0 55 28 13064 1 0 4 16355 32 28 7281 32 28 16357 32 28 7281 32 28 13065 1 0 3",
   "16356 32 28 16399 32 28 16364 32 28 13066 1 0 3 16356 32 28 7281 32 28 16384 32 28 13067 1 0 3",
   "16357 32 28 16349 32 28 16391 32 28 13068 1 0 4 16357 32 28 16390 32 28 16369 32 28 16371 32",
   "28 13069 1 0 4 16357 32 28 16394 32 28 16391 32 28 7281 32 28 13070 1 0 4 16357 32 28 0 55 28",
   "16394 32 28 16399 32 28 13071 1 0 4 16357 32 28 0 55 28 16399 32 28 16382 32 28 13072 1 0 4",
   "16358 32 28 0 55 28 16357 32 28 0 55 28 13073 1 0 4 16358 32 28 0 55 28 16373 32 28 7281 32 28",
   "13074 1 0 4 16358 32 28 16388 32 28 16391 32 28 7281 32 28 13075 1 0 6 16358 32 28 0 55 28",
   "16392 32 28 16367 32 28 0 55 28 7281 32 28 13076 1 0 2 16358 32 28 16394 32 28 13077 1 0 6",
   "16358 32 28 16394 32 28 16359 32 28 0 55 28 16390 32 28 16384 32 28 13078 1 0 6 16358 32 28",
   "16394 32 28 16385 32 28 7281 32 28 16371 32 28 16392 32 28 13079 1 0 5 16358 32 28 16394 32 28",
   "16395 32 28 16369 32 28 16371 32 28 13080 1 0 4 16359 32 28 0 55 28 16390 32 28 16384 32 28",
   "13081 1 0 6 16359 32 28 0 55 28 16390 32 28 16384 32 28 16371 32 28 16399 32 28 13082 1 0 6",
   "16359 32 28 16392 32 28 16365 32 28 0 55 28 16349 32 28 16394 32 28 13083 1 0 4 16359 32 28",
   "16394 32 28 7281 32 28 16375 32 28 13084 1 0 3 16360 32 28 7281 32 28 16364 32 28 13085 1 0 3",
   "16361 32 28 16392 32 28 16372 32 28 13086 1 0 4 16361 32 28 7281 32 28 16381 32 28 0 56 28",
   "13087 1 0 4 16362 32 28 16349 32 28 16359 32 28 16392 32 28 13088 1 0 5 16362 32 28 16399 32",
   "28 16368 32 28 7281 32 28 16384 32 28 13089 1 0 5 16363 32 28 16391 32 28 16399 32 28 16359 32",
   "28 0 55 28 13090 1 0 3 16365 32 28 16399 32 28 16368 32 28 13091 1 0 3 16365 32 28 16399 32 28",
   "16371 32 28 13092 1 0 4 16367 32 28 0 55 28 7281 32 28 16364 32 28 13093 1 0 3 16370 32 28 0",
   "55 28 16363 32 28 13094 1 0 3 16371 32 28 0 55 28 16392 32 28 13095 1 0 2 16371 32 28 16399 32",
   "28 13096 1 0 2 16372 32 28 16376 32 28 13097 1 0 3 16376 32 28 16369 32 28 16371 32 28 13098 1",
   "0 3 16377 32 28 16349 32 28 16369 32 28 13099 1 0 6 16377 32 28 0 56 28 7281 32 28 16365 32 28",
   "16399 32 28 16371 32 28 13100 1 0 4 16377 32 28 0 56 28 7281 32 28 16369 32 28 13101 1 0 5",
   "16377 32 28 0 55 28 7281 32 28 16393 32 28 16392 32 28 13102 1 0 6 16378 32 28 0 56 28 16348",
   "32 28 16364 32 28 16371 32 28 16392 32 28 13103 1 0 4 16378 32 28 0 56 28 16359 32 28 16392 32",
   "28 13104 1 0 3 16378 32 28 0 56 28 16361 32 28 13105 1 0 3 16378 32 28 0 55 28 16392 32 28",
   "13106 1 0 6 16379 32 28 16348 32 28 16390 32 28 16369 32 28 16371 32 28 0 55 28 13107 1 0 4",
   "16379 32 28 16349 32 28 7281 32 28 16371 32 28 13108 1 0 6 16379 32 28 0 55 28 16369 32 28",
   "16363 32 28 16355 32 28 16392 32 28 13109 1 0 3 16379 32 28 16390 32 28 16399 32 28 13110 1 0",
   "5 16380 32 28 16359 32 28 16367 32 28 7281 32 28 16392 32 28 13111 1 0 3 16380 32 28 0 56 28",
   "16366 32 28 13112 1 0 4 16380 32 28 0 56 28 16373 32 28 16378 32 28 13113 1 0 3 16380 32 28",
   "16392 32 28 16369 32 28 13114 1 0 4 16380 32 28 0 56 28 16399 32 28 16364 32 28 13115 1 0 5",
   "16380 32 28 0 56 28 7281 32 28 16363 32 28 0 55 28 13116 1 0 4 16380 32 28 0 55 28 7281 32 28",
   "16367 32 28 13117 1 0 5 16381 32 28 0 56 28 16349 32 28 16399 32 28 16371 32 28 13118 1 0 4",
   "16381 32 28 0 55 28 16392 32 28 16371 32 28 13119 1 0 2 16381 32 28 16399 32 28 13120 1 0 5",
   "16381 32 28 0 56 28 16399 32 28 16371 32 28 0 55 28 13121 1 0 3 16381 32 28 7281 32 28 16392",
   "32 28 13122 1 0 3 16381 32 28 7281 32 28 16399 32 28 13123 1 0 4 16382 32 28 16349 32 28 16359",
   "32 28 16394 32 28 13124 1 0 3 16382 32 28 16349 32 28 16392 32 28 13125 1 0 3 16382 32 28",
   "16369 32 28 16377 32 28 13126 1 0 3 16382 32 28 16392 32 28 16359 32 28 13127 1 0 5 16382 32",
   "28 16399 32 28 16363 32 28 16389 32 28 16399 32 28 13128 1 0 4 16383 32 28 16359 32 28 16394",
   "32 28 16399 32 28 13129 1 0 2 16383 32 28 16391 32 28 13130 1 0 6 16383 32 28 16391 32 28",
   "16377 32 28 0 55 28 7281 32 28 16392 32 28 13131 1 0 3 16385 32 28 16357 32 28 0 55 28 13132 1",
   "0 5 16385 32 28 16357 32 28 0 55 28 16371 32 28 16399 32 28 13133 1 0 4 16385 32 28 7281 32 28",
   "16371 32 28 16392 32 28 13134 1 0 4 16387 32 28 7281 32 28 16371 32 28 0 55 28 13135 1 0 3",
   "16387 32 28 7281 32 28 16392 32 28 13136 1 0 3 16388 32 28 16348 32 28 16399 32 28 13137 1 0 4",
   "16391 32 28 16369 32 28 16371 32 28 16392 32 28 13138 1 0 2 16391 32 28 16390 32 28 13139 1 0",
   "4 16392 32 28 16378 32 28 0 56 28 7281 32 28 13140 1 0 5 16392 32 28 7281 32 28 16379 32 28 0",
   "55 28 16392 32 28 13141 1 0 2 16393 32 28 16384 32 28 13142 1 0 6 16393 32 28 16399 32 28",
   "16371 32 28 16360 32 28 0 55 28 16399 32 28 13143 1 0 3 16395 32 28 16369 32 28 16371 32 28",
   "13144 1 0 2 7835 32 4 8417465 32 4 13145 1 0 2 7836 32 4 8417465 32 4 13146 1 0 2 7837 32 4",
   "8417465 32 4 13147 1 0 2 7838 32 4 8417465 32 4 13148 1 0 2 7839 32 4 8417465 32 4 13149 1 0 2",
   "7840 32 4 8417465 32 4 13150 1 0 2 7841 32 4 8417465 32 4 13151 1 0 2 7842 32 4 8417465 32 4",
   "13152 1 0 2 7843 32 4 8417465 32 4 13153 1 0 2 7844 32 4 8417465 32 4 13154 1 0 3 7836 32 4",
   "7835 32 4 8417465 32 4 13155 1 0 3 7836 32 4 7836 32 4 8417465 32 4 13156 1 0 3 7836 32 4 7837",
   "32 4 8417465 32 4 13157 1 0 3 7836 32 4 7838 32 4 8417465 32 4 13158 1 0 3 7836 32 4 7839 32 4",
   "8417465 32 4 13159 1 0 3 7836 32 4 7840 32 4 8417465 32 4 13160 1 0 3 7836 32 4 7841 32 4",
   "8417465 32 4 13161 1 0 3 7836 32 4 7842 32 4 8417465 32 4 13162 1 0 3 7836 32 4 7843 32 4",
   "8417465 32 4 13163 1 0 3 7836 32 4 7844 32 4 8417465 32 4 13164 1 0 3 7837 32 4 7835 32 4",
   "8417465 32 4 13165 1 0 3 7837 32 4 7836 32 4 8417465 32 4 13166 1 0 3 7837 32 4 7837 32 4",
   "8417465 32 4 13167 1 0 3 7837 32 4 7838 32 4 8417465 32 4 13168 1 0 3 7837 32 4 7839 32 4",
   "8417465 32 4 13169 1 0 3 7936 32 28 8050 32 29 7845 32 28 13170 1 0 2 7879 32 28 7845 32 28",
   "13171 1 0 2 7845 32 29 8131 32 29 13172 1 0 3 7859 32 28 7845 32 28 8069 32 28 13173 1 0 2",
   "8021 32 28 8156 32 29 13174 1 0 2 8050 32 28 7870 32 28 13175 1 0 2 7879 32 28 7997 32 28",
   "13176 1 0 3 7879 32 28 7997 32 28 7837 32 28 13177 1 0 3 7879 32 28 7997 32 28 7838 32 28",
   "13178 1 0 2 7948 32 29 8131 32 29 13179 1 0 2 8412787 32 28 8413712 32 28 13180 1 0 2 8414765",
   "32 28 8410252 32 28 13181 1 0 2 8411431 32 28 8416099 32 28 13182 1 0 2 8414734 32 28 8416443",
   "32 28 13183 1 0 4 8415274 32 28 8412943 32 28 8408858 32 28 8419646 32 28 13184 1 0 2 8050 32",
   "28 7845 32 29 13185 1 0 2 8006 32 28 7845 32 29 13186 1 0 2 8373 32 28 7845 32 29 13187 1 0 2",
   "7997 32 28 7845 32 29 13188 1 0 2 7967 32 28 7845 32 29 13189 1 0 2 7967 32 29 7859 32 29",
   "13190 1 0 2 7997 32 29 7859 32 29 13191 1 0 2 7924 32 29 7859 32 29 13192 1 0 3 7870 32 28",
   "7845 32 28 7976 32 28 13193 1 0 4 7967 32 28 7870 32 28 7845 32 28 7976 32 28 13194 1 0 2 8050",
   "32 28 7915 32 29 13195 1 0 2 8006 32 28 7915 32 29 13196 1 0 2 8373 32 28 7915 32 29 13197 1 0",
   "2 8373 32 28 7924 32 28 13198 1 0 2 7997 32 28 7924 32 28 13199 1 0 2 7967 32 28 7924 32 28",
   "13200 1 0 2 7936 32 29 8255 32 28 13201 1 0 3 7967 32 28 7936 32 29 8255 32 28 13202 1 0 3",
   "7997 32 29 7936 32 29 8255 32 28 13203 1 0 3 7924 32 29 7936 32 29 8255 32 28 13204 1 0 3 8120",
   "32 29 7936 32 29 8255 32 28 13205 1 0 2 8373 32 28 7976 32 28 13206 1 0 2 7997 32 28 7976 32",
   "28 13207 1 0 2 7879 32 28 7976 32 28 13208 1 0 2 7967 32 28 7976 32 28 13209 1 0 2 7915 32 28",
   "7997 32 28 13210 1 0 2 8006 32 28 7997 32 28 13211 1 0 2 8373 32 28 7997 32 28 13212 1 0 2",
   "7997 32 28 7997 32 28 13213 1 0 2 7870 32 28 7997 32 28 13214 1 0 2 7967 32 28 7997 32 28",
   "13215 1 0 3 7997 32 28 7997 32 28 7837 32 28 13216 1 0 3 7870 32 28 7997 32 28 7837 32 28",
   "13217 1 0 2 7997 32 28 7837 32 28 13218 1 0 3 7967 32 28 7997 32 28 7837 32 28 13219 1 0 3",
   "7997 32 28 7997 32 28 7838 32 28 13220 1 0 3 7870 32 28 7997 32 28 7838 32 28 13221 1 0 2 7997",
   "32 28 7838 32 28 13222 1 0 3 7967 32 28 7997 32 28 7838 32 28 13223 1 0 3 7997 32 28 1208 32",
   "28 8099 32 28 13224 1 0 4 7997 32 28 1208 32 28 8099 32 28 7837 32 28 13225 1 0 2 8050 32 29",
   "7845 32 28 13226 1 0 3 7967 32 28 8050 32 29 7845 32 28 13227 1 0 3 7997 32 29 8050 32 29 7845",
   "32 28 13228 1 0 3 7924 32 29 8050 32 29 7845 32 28 13229 1 0 3 8069 32 28 7845 32 28 7879 32",
   "28 13230 1 0 5 8069 32 28 7845 32 28 7879 32 28 1208 32 28 8099 32 28 13231 1 0 6 8069 32 28",
   "7845 32 28 7879 32 28 1208 32 28 8099 32 28 7837 32 28 13232 1 0 2 8050 32 28 8099 32 28 13233",
   "1 0 2 8006 32 28 8099 32 28 13234 1 0 2 8373 32 28 8099 32 28 13235 1 0 2 7997 32 28 8099 32",
   "28 13236 1 0 2 8050 32 28 8156 32 29 13237 1 0 2 8006 32 28 8156 32 29 13238 1 0 2 8373 32 28",
   "8156 32 29 13239 1 0 2 7997 32 28 8156 32 29 13240 1 0 2 7967 32 28 8156 32 29 13241 1 0 2",
   "7997 32 29 8156 32 29 13242 1 0 2 8050 32 28 8165 32 29 13243 1 0 2 8006 32 28 8165 32 29",
   "13244 1 0 2 8373 32 28 8165 32 29 13245 1 0 2 7997 32 28 8165 32 29 13246 1 0 2 7967 32 28",
   "8165 32 29 13247 1 0 2 7997 32 29 8165 32 29 13248 1 0 2 7967 32 28 8395 32 29 13249 1 0 2",
   "7997 32 29 8395 32 29 13250 1 0 4 7845 32 28 133 32 28 7997 32 28 133 32 28 13251 1 0 2 7859",
   "32 29 8062 32 28 13252 1 0 2 7870 32 28 7870 32 28 13253 1 0 2 7870 32 28 7879 32 28 13254 1 0",
   "4 7870 32 29 1208 32 28 7967 32 28 7924 32 28 13255 1 0 3 7870 32 29 8021 32 28 133 32 28",
   "13256 1 0 2 7879 32 28 7859 32 29 13257 1 0 2 7924 32 29 8248 32 28 13258 1 0 2 7936 32 28",
   "7845 32 28 13259 1 0 2 7936 32 29 8050 32 29 13260 1 0 2 7948 32 28 8006 32 28 13261 1 0 2",
   "7967 32 29 7967 32 29 13262 1 0 2 7967 32 29 7997 32 29 13263 1 0 2 7967 32 28 8120 32 28",
   "13264 1 0 2 7976 32 28 7997 32 28 13265 1 0 2 7976 32 28 8006 32 28 13266 1 0 3 7976 32 28",
   "8021 32 28 7924 32 28 13267 1 0 2 7976 32 28 8239 32 28 13268 1 0 2 7997 32 28 7859 32 28",
   "13269 1 0 3 7997 32 28 7948 32 28 7976 32 28 13270 1 0 3 7997 32 28 8021 32 28 7976 32 28",
   "13271 1 0 2 8050 32 29 7936 32 29 13272 1 0 4 8050 32 28 133 32 28 7997 32 28 133 32 28 13273",
   "1 0 3 8050 32 29 8050 32 29 7997 32 29 13274 1 0 2 8050 32 29 8069 32 29 13275 1 0 2 8099 32",
   "28 8069 32 28 13276 1 0 2 8099 32 29 8156 32 28 13277 1 0 2 8165 32 29 7859 32 28 13278 1 0 3",
   "8156 32 29 1208 32 28 7997 32 28 13279 1 0 3 7845 32 29 1208 32 28 7997 32 28 13280 1 0 2 7836",
   "32 4 8414693 32 4 13281 1 0 2 7837 32 4 8414693 32 4 13282 1 0 2 7838 32 4 8414693 32 4 13283",
   "1 0 2 7839 32 4 8414693 32 4 13284 1 0 2 7840 32 4 8414693 32 4 13285 1 0 2 7841 32 4 8414693",
   "32 4 13286 1 0 2 7842 32 4 8414693 32 4 13287 1 0 2 7843 32 4 8414693 32 4 13288 1 0 2 7844 32",
   "4 8414693 32 4 13289 1 0 3 7836 32 4 7835 32 4 8414693 32 4 13290 1 0 3 7836 32 4 7836 32 4",
   "8414693 32 4 13291 1 0 3 7836 32 4 7837 32 4 8414693 32 4 13292 1 0 3 7836 32 4 7838 32 4",
   "8414693 32 4 13293 1 0 3 7836 32 4 7839 32 4 8414693 32 4 13294 1 0 3 7836 32 4 7840 32 4",
   "8414693 32 4 13295 1 0 3 7836 32 4 7841 32 4 8414693 32 4 13296 1 0 3 7836 32 4 7842 32 4",
   "8414693 32 4 13297 1 0 3 7836 32 4 7843 32 4 8414693 32 4 13298 1 0 3 7836 32 4 7844 32 4",
   "8414693 32 4 13299 1 0 3 7837 32 4 7835 32 4 8414693 32 4 13300 1 0 3 7837 32 4 7836 32 4",
   "8414693 32 4 13301 1 0 3 7837 32 4 7837 32 4 8414693 32 4 13302 1 0 3 7837 32 4 7838 32 4",
   "8414693 32 4 13303 1 0 3 7837 32 4 7839 32 4 8414693 32 4 13304 1 0 3 7837 32 4 7840 32 4",
   "8414693 32 4 13305 1 0 3 7837 32 4 7841 32 4 8414693 32 4 13306 1 0 3 7837 32 4 7842 32 4",
   "8414693 32 4 13307 1 0 3 7837 32 4 7843 32 4 8414693 32 4 13308 1 0 3 7837 32 4 7844 32 4",
   "8414693 32 4 13309 1 0 3 7838 32 4 7835 32 4 8414693 32 4 13310 1 0 3 7838 32 4 7836 32 4",
   "8414693 32 4 13311 1 0 3 7924 32 28 7845 32 28 7976 32 28 42515 1 0 2 14791 32 4 15046 32 4",
   "42516 1 0 2 14809 32 4 15046 32 4 42517 1 0 2 14830 32 4 15046 32 4 42518 1 0 2 14850 32 4",
   "15047 32 4 42519 1 0 2 14861 32 4 15046 32 4 42520 1 0 2 14867 32 4 15047 32 4 42521 1 0 2",
   "14869 32 4 15047 32 4 42522 1 0 2 14875 32 4 15046 32 4 42523 1 0 2 14912 32 4 15046 32 4",
   "42524 1 0 2 14959 32 4 15046 32 4 42525 1 0 2 14982 32 4 15046 32 4 42526 1 0 2 14988 32 4",
   "15047 32 4 42527 1 0 2 14995 32 4 15046 32 4 42605 2 0 1 8531 32 4 42608 3 0 0 42614 1 0 2",
   "8496 32 4 0 43 4 42617 2 1 1 8590 32 4 42620 2 0 1 0 51 2 42792 1 0 2 8120 32 10 8255 32 4",
   "42793 1 0 2 8120 32 4 8255 32 4 42802 1 0 2 7845 32 10 7845 32 10 42803 1 0 2 7845 32 4 7845",
   "32 4 42804 1 0 2 7845 32 10 8021 32 10 42805 1 0 2 7845 32 4 8021 32 4 42806 1 0 2 7845 32 10",
   "8131 32 10 42807 1 0 2 7845 32 4 8131 32 4 42808 1 0 2 7845 32 10 8156 32 10 42809 1 0 2 7845",
   "32 4 8156 32 4 42810 1 0 3 7845 32 10 0 280 4 8156 32 10 42811 1 0 3 7845 32 4 0 280 4 8156 32",
   "4 42812 1 0 2 7845 32 10 8248 32 10 42813 1 0 2 7845 32 4 8248 32 4 42830 1 0 2 8021 32 10",
   "8021 32 10 42831 1 0 2 8021 32 4 8021 32 4 42848 1 0 2 8156 32 10 8248 32 10 42849 1 0 2 8156",
   "32 4 8248 32 4 42873 1 0 2 7879 32 10 0 281 4 42874 1 0 2 7879 32 4 0 281 4 42875 1 0 2 7915",
   "32 10 0 281 4 42876 1 0 2 7915 32 4 0 281 4 42877 1 0 2 7924 32 10 0 281 4 42882 1 0 2 8069 32",
   "10 0 281 4 42883 1 0 2 8069 32 4 0 281 4 42884 1 0 2 8099 32 10 0 281 4 42885 1 0 2 8099 32 4",
   "0 281 4 42886 1 0 2 8120 32 10 0 281 4 42887 1 0 2 8120 32 4 0 281 4 42906 1 0 2 7845 32 10 0",
   "43 4 42907 1 0 2 7845 32 4 0 43 4 42908 1 0 2 8021 32 10 0 43 4 42909 1 0 2 8021 32 4 0 43 4",
   "42910 1 0 2 8131 32 10 0 43 4 42911 1 0 2 8131 32 4 0 43 4 42912 1 0 2 7924 32 10 0 53 4 42913",
   "1 0 2 7924 32 4 0 53 4 42914 1 0 2 7967 32 10 0 53 4 42915 1 0 2 7967 32 4 0 53 4 42916 1 0 2",
   "8006 32 10 0 53 4 42917 1 0 2 8006 32 4 0 53 4 42918 1 0 2 8069 32 10 0 53 4 42919 1 0 2 8069",
   "32 4 0 53 4 42920 1 0 2 8099 32 10 0 53 4 42921 1 0 2 8099 32 4 0 53 4 43000 1 0 2 7936 32 20",
   "0 57 20 43001 1 0 3 8021 32 20 0 280 20 7892 32 20 43232 18 0 0 43251 5 0 1 9918 32 4 43878 1",
   "0 2 7879 32 4 8299 32 4 43879 1 0 2 8120 32 4 8109 32 4 64256 1 0 2 7915 32 4 7915 32 4 64257",
   "1 0 2 7915 32 4 7948 32 4 64258 1 0 2 7915 32 4 7976 32 4 64259 1 0 3 7915 32 4 7915 32 4 7948",
   "32 4 64260 1 0 3 7915 32 4 7915 32 4 7976 32 4 64261 1 0 3 8099 32 4 0 281 4 8120 32 4 64262 1",
   "0 2 8099 32 4 8120 32 4 64275 1 0 2 8809 32 4 8812 32 4 64276 1 0 2 8809 32 4 8794 32 4 64277",
   "1 0 2 8809 32 4 8800 32 4 64278 1 0 2 8820 32 4 8812 32 4 64279 1 0 2 8809 32 4 8802 32 4",
   "64290 2 1 1 8833 32 5 64292 3 1 1 8840 32 5 64335 1 0 2 8830 32 4 8841 32 4 64420 1 0 2 9128",
   "32 26 0 131 26 64421 1 0 2 9128 32 25 0 131 25 64432 1 0 2 9158 32 26 0 131 26 64433 1 0 2",
   "9158 32 25 0 131 25 64477 1 0 2 9133 32 26 8900 32 26 64490 1 0 2 8910 32 26 8914 32 26 64491",
   "1 0 2 8910 32 25 8914 32 25 64492 1 0 2 8910 32 26 9128 32 26 64493 1 0 2 8910 32 25 9128 32",
   "25 64494 1 0 2 8910 32 26 9129 32 26 64495 1 0 2 8910 32 25 9129 32 25 64496 1 0 2 8910 32 26",
   "9133 32 26 64497 1 0 2 8910 32 25 9133 32 25 64498 1 0 2 8910 32 26 9132 32 26 64499 1 0 2",
   "8910 32 25 9132 32 25 64500 1 0 2 8910 32 26 9134 32 26 64501 1 0 2 8910 32 25 9134 32 25",
   "64502 1 0 2 8910 32 26 9148 32 26 64503 1 0 2 8910 32 25 9148 32 25 64504 1 0 2 8910 32 23",
   "9148 32 23 64505 1 0 2 8910 32 26 9143 32 26 64506 1 0 2 8910 32 25 9143 32 25 64507 1 0 2",
   "8910 32 23 9143 32 23 64512 1 0 2 8910 32 26 8943 32 26 64513 1 0 2 8910 32 26 8953 32 26",
   "64514 1 0 2 8910 32 26 9109 32 26 64515 1 0 2 8910 32 26 9143 32 26 64516 1 0 2 8910 32 26",
   "9144 32 26 64517 1 0 2 8916 32 26 8943 32 26 64518 1 0 2 8916 32 26 8953 32 26 64519 1 0 2",
   "8916 32 26 8954 32 26 64520 1 0 2 8916 32 26 9109 32 26 64521 1 0 2 8916 32 26 9143 32 26",
   "64522 1 0 2 8916 32 26 9144 32 26 64523 1 0 2 8933 32 26 8943 32 26 64524 1 0 2 8933 32 26",
   "8953 32 26 64525 1 0 2 8933 32 26 8954 32 26 64526 1 0 2 8933 32 26 9109 32 26 64527 1 0 2",
   "8933 32 26 9143 32 26 64528 1 0 2 8933 32 26 9144 32 26 64529 1 0 2 8934 32 26 8943 32 26",
   "64530 1 0 2 8934 32 26 9109 32 26 64531 1 0 2 8934 32 26 9143 32 26 64532 1 0 2 8934 32 26",
   "9144 32 26 64533 1 0 2 8943 32 26 8953 32 26 64534 1 0 2 8943 32 26 9109 32 26 64535 1 0 2",
   "8953 32 26 8943 32 26 64536 1 0 2 8953 32 26 9109 32 26 64537 1 0 2 8954 32 26 8943 32 26",
   "64538 1 0 2 8954 32 26 8953 32 26 64539 1 0 2 8954 32 26 9109 32 26 64540 1 0 2 8998 32 26",
   "8943 32 26 64541 1 0 2 8998 32 26 8953 32 26 64542 1 0 2 8998 32 26 8954 32 26 64543 1 0 2",
   "8998 32 26 9109 32 26 64544 1 0 2 9009 32 26 8953 32 26 64545 1 0 2 9009 32 26 9109 32 26",
   "64546 1 0 2 9010 32 26 8943 32 26 64547 1 0 2 9010 32 26 8953 32 26 64548 1 0 2 9010 32 26",
   "8954 32 26 64549 1 0 2 9010 32 26 9109 32 26 64550 1 0 2 9015 32 26 8953 32 26 64551 1 0 2",
   "9015 32 26 9109 32 26 64552 1 0 2 9016 32 26 9109 32 26 64553 1 0 2 9019 32 26 8943 32 26",
   "64554 1 0 2 9019 32 26 9109 32 26 64555 1 0 2 9020 32 26 8943 32 26 64556 1 0 2 9020 32 26",
   "9109 32 26 64557 1 0 2 9028 32 26 8943 32 26 64558 1 0 2 9028 32 26 8953 32 26 64559 1 0 2",
   "9028 32 26 8954 32 26 64560 1 0 2 9028 32 26 9109 32 26 64561 1 0 2 9028 32 26 9143 32 26",
   "64562 1 0 2 9028 32 26 9144 32 26 64563 1 0 2 9040 32 26 8953 32 26 64564 1 0 2 9040 32 26",
   "9109 32 26 64565 1 0 2 9040 32 26 9143 32 26 64566 1 0 2 9040 32 26 9144 32 26 64567 1 0 2",
   "9046 32 26 8914 32 26 64568 1 0 2 9046 32 26 8943 32 26 64569 1 0 2 9046 32 26 8953 32 26",
   "64570 1 0 2 9046 32 26 8954 32 26 64571 1 0 2 9046 32 26 9099 32 26 64572 1 0 2 9046 32 26",
   "9109 32 26 64573 1 0 2 9046 32 26 9143 32 26 64574 1 0 2 9046 32 26 9144 32 26 64575 1 0 2",
   "9099 32 26 8943 32 26 64576 1 0 2 9099 32 26 8953 32 26 64577 1 0 2 9099 32 26 8954 32 26",
   "64578 1 0 2 9099 32 26 9109 32 26 64579 1 0 2 9099 32 26 9143 32 26 64580 1 0 2 9099 32 26",
   "9144 32 26 64581 1 0 2 9109 32 26 8943 32 26 64582 1 0 2 9109 32 26 8953 32 26 64583 1 0 2",
   "9109 32 26 8954 32 26 64584 1 0 2 9109 32 26 9109 32 26 64585 1 0 2 9109 32 26 9143 32 26",
   "64586 1 0 2 9109 32 26 9144 32 26 64587 1 0 2 9113 32 26 8943 32 26 64588 1 0 2 9113 32 26",
   "8953 32 26 64589 1 0 2 9113 32 26 8954 32 26 64590 1 0 2 9113 32 26 9109 32 26 64591 1 0 2",
   "9113 32 26 9143 32 26 64592 1 0 2 9113 32 26 9144 32 26 64593 1 0 2 9123 32 26 8943 32 26",
   "64594 1 0 2 9123 32 26 9109 32 26 64595 1 0 2 9123 32 26 9143 32 26 64596 1 0 2 9123 32 26",
   "9144 32 26 64597 1 0 2 9144 32 26 8943 32 26 64598 1 0 2 9144 32 26 8953 32 26 64599 1 0 2",
   "9144 32 26 8954 32 26 64600 1 0 2 9144 32 26 9109 32 26 64601 1 0 2 9144 32 26 9143 32 26",
   "64602 1 0 2 9144 32 26 9144 32 26 64603 1 0 2 8965 32 26 0 152 26 64604 1 0 2 8979 32 26 0 152",
   "26 64605 1 0 2 9143 32 26 0 152 26 64606 1 0 2 0 112 26 0 128 26 64607 1 0 2 0 115 26 0 128 26",
   "64608 1 0 2 0 118 26 0 128 26 64609 1 0 2 0 122 26 0 128 26 64610 1 0 2 0 125 26 0 128 26",
   "64611 1 0 2 0 128 26 0 152 26 64612 1 0 2 8910 32 25 8979 32 25 64613 1 0 2 8910 32 25 8980 32",
   "25 64614 1 0 2 8910 32 25 9109 32 25 64615 1 0 2 8910 32 25 9113 32 25 64616 1 0 2 8910 32 25",
   "9143 32 25 64617 1 0 2 8910 32 25 9144 32 25 64618 1 0 2 8916 32 25 8979 32 25 64619 1 0 2",
   "8916 32 25 8980 32 25 64620 1 0 2 8916 32 25 9109 32 25 64621 1 0 2 8916 32 25 9113 32 25",
   "64622 1 0 2 8916 32 25 9143 32 25 64623 1 0 2 8916 32 25 9144 32 25 64624 1 0 2 8933 32 25",
   "8979 32 25 64625 1 0 2 8933 32 25 8980 32 25 64626 1 0 2 8933 32 25 9109 32 25 64627 1 0 2",
   "8933 32 25 9113 32 25 64628 1 0 2 8933 32 25 9143 32 25 64629 1 0 2 8933 32 25 9144 32 25",
   "64630 1 0 2 8934 32 25 8979 32 25 64631 1 0 2 8934 32 25 8980 32 25 64632 1 0 2 8934 32 25",
   "9109 32 25 64633 1 0 2 8934 32 25 9113 32 25 64634 1 0 2 8934 32 25 9143 32 25 64635 1 0 2",
   "8934 32 25 9144 32 25 64636 1 0 2 9028 32 25 9143 32 25 64637 1 0 2 9028 32 25 9144 32 25",
   "64638 1 0 2 9040 32 25 9143 32 25 64639 1 0 2 9040 32 25 9144 32 25 64640 1 0 2 9046 32 25",
   "8914 32 25 64641 1 0 2 9046 32 25 9099 32 25 64642 1 0 2 9046 32 25 9109 32 25 64643 1 0 2",
   "9046 32 25 9143 32 25 64644 1 0 2 9046 32 25 9144 32 25 64645 1 0 2 9099 32 25 9109 32 25",
   "64646 1 0 2 9099 32 25 9143 32 25 64647 1 0 2 9099 32 25 9144 32 25 64648 1 0 2 9109 32 25",
   "8914 32 25 64649 1 0 2 9109 32 25 9109 32 25 64650 1 0 2 9113 32 25 8979 32 25 64651 1 0 2",
   "9113 32 25 8980 32 25 64652 1 0 2 9113 32 25 9109 32 25 64653 1 0 2 9113 32 25 9113 32 25",
   "64654 1 0 2 9113 32 25 9143 32 25 64655 1 0 2 9113 32 25 9144 32 25 64656 1 0 2 9143 32 25 0",
   "152 25 64657 1 0 2 9144 32 25 8979 32 25 64658 1 0 2 9144 32 25 8980 32 25 64659 1 0 2 9144 32",
   "25 9109 32 25 64660 1 0 2 9144 32 25 9113 32 25 64661 1 0 2 9144 32 25 9143 32 25 64662 1 0 2",
   "9144 32 25 9144 32 25 64663 1 0 2 8910 32 23 8943 32 23 64664 1 0 2 8910 32 23 8953 32 23",
   "64665 1 0 2 8910 32 23 8954 32 23 64666 1 0 2 8910 32 23 9109 32 23 64667 1 0 2 8910 32 23",
   "9123 32 23 64668 1 0 2 8916 32 23 8943 32 23 64669 1 0 2 8916 32 23 8953 32 23 64670 1 0 2",
   "8916 32 23 8954 32 23 64671 1 0 2 8916 32 23 9109 32 23 64672 1 0 2 8916 32 23 9123 32 23",
   "64673 1 0 2 8933 32 23 8943 32 23 64674 1 0 2 8933 32 23 8953 32 23 64675 1 0 2 8933 32 23",
   "8954 32 23 64676 1 0 2 8933 32 23 9109 32 23 64677 1 0 2 8933 32 23 9123 32 23 64678 1 0 2",
   "8934 32 23 9109 32 23 64679 1 0 2 8943 32 23 8953 32 23 64680 1 0 2 8943 32 23 9109 32 23",
   "64681 1 0 2 8953 32 23 8943 32 23 64682 1 0 2 8953 32 23 9109 32 23 64683 1 0 2 8954 32 23",
   "8943 32 23 64684 1 0 2 8954 32 23 9109 32 23 64685 1 0 2 8998 32 23 8943 32 23 64686 1 0 2",
   "8998 32 23 8953 32 23 64687 1 0 2 8998 32 23 8954 32 23 64688 1 0 2 8998 32 23 9109 32 23",
   "64689 1 0 2 9009 32 23 8953 32 23 64690 1 0 2 9009 32 23 8954 32 23 64691 1 0 2 9009 32 23",
   "9109 32 23 64692 1 0 2 9010 32 23 8943 32 23 64693 1 0 2 9010 32 23 8953 32 23 64694 1 0 2",
   "9010 32 23 8954 32 23 64695 1 0 2 9010 32 23 9109 32 23 64696 1 0 2 9015 32 23 8953 32 23",
   "64697 1 0 2 9016 32 23 9109 32 23 64698 1 0 2 9019 32 23 8943 32 23 64699 1 0 2 9019 32 23",
   "9109 32 23 64700 1 0 2 9020 32 23 8943 32 23 64701 1 0 2 9020 32 23 9109 32 23 64702 1 0 2",
   "9028 32 23 8943 32 23 64703 1 0 2 9028 32 23 8953 32 23 64704 1 0 2 9028 32 23 8954 32 23",
   "64705 1 0 2 9028 32 23 9109 32 23 64706 1 0 2 9040 32 23 8953 32 23 64707 1 0 2 9040 32 23",
   "9109 32 23 64708 1 0 2 9046 32 23 8943 32 23 64709 1 0 2 9046 32 23 8953 32 23 64710 1 0 2",
   "9046 32 23 8954 32 23 64711 1 0 2 9046 32 23 9099 32 23 64712 1 0 2 9046 32 23 9109 32 23",
   "64713 1 0 2 9099 32 23 8943 32 23 64714 1 0 2 9099 32 23 8953 32 23 64715 1 0 2 9099 32 23",
   "8954 32 23 64716 1 0 2 9099 32 23 9109 32 23 64717 1 0 2 9099 32 23 9123 32 23 64718 1 0 2",
   "9109 32 23 8943 32 23 64719 1 0 2 9109 32 23 8953 32 23 64720 1 0 2 9109 32 23 8954 32 23",
   "64721 1 0 2 9109 32 23 9109 32 23 64722 1 0 2 9113 32 23 8943 32 23 64723 1 0 2 9113 32 23",
   "8953 32 23 64724 1 0 2 9113 32 23 8954 32 23 64725 1 0 2 9113 32 23 9109 32 23 64726 1 0 2",
   "9113 32 23 9123 32 23 64727 1 0 2 9123 32 23 8943 32 23 64728 1 0 2 9123 32 23 9109 32 23",
   "64729 1 0 2 9123 32 23 0 152 23 64730 1 0 2 9144 32 23 8943 32 23 64731 1 0 2 9144 32 23 8953",
   "32 23 64732 1 0 2 9144 32 23 8954 32 23 64733 1 0 2 9144 32 23 9109 32 23 64734 1 0 2 9144 32",
   "23 9123 32 23 64735 1 0 2 8910 32 24 9109 32 24 64736 1 0 2 8910 32 24 9123 32 24 64737 1 0 2",
   "8916 32 24 9109 32 24 64738 1 0 2 8916 32 24 9123 32 24 64739 1 0 2 8933 32 24 9109 32 24",
   "64740 1 0 2 8933 32 24 9123 32 24 64741 1 0 2 8934 32 24 9109 32 24 64742 1 0 2 8934 32 24",
   "9123 32 24 64743 1 0 2 8998 32 24 9109 32 24 64744 1 0 2 8998 32 24 9123 32 24 64745 1 0 2",
   "8999 32 24 9109 32 24 64746 1 0 2 8999 32 24 9123 32 24 64747 1 0 2 9046 32 24 9099 32 24",
   "64748 1 0 2 9046 32 24 9109 32 24 64749 1 0 2 9099 32 24 9109 32 24 64750 1 0 2 9113 32 24",
   "9109 32 24 64751 1 0 2 9113 32 24 9123 32 24 64752 1 0 2 9144 32 24 9109 32 24 64753 1 0 2",
   "9144 32 24 9123 32 24 64754 1 0 2 0 118 24 0 128 24 64755 1 0 2 0 122 24 0 128 24 64756 1 0 2",
   "0 125 24 0 128 24 64757 1 0 2 9015 32 26 9143 32 26 64758 1 0 2 9015 32 26 9144 32 26 64759 1",
   "0 2 9019 32 26 9143 32 26 64760 1 0 2 9019 32 26 9144 32 26 64761 1 0 2 9020 32 26 9143 32 26",
   "64762 1 0 2 9020 32 26 9144 32 26 64763 1 0 2 8998 32 26 9143 32 26 64764 1 0 2 8998 32 26",
   "9144 32 26 64765 1 0 2 8999 32 26 9143 32 26 64766 1 0 2 8999 32 26 9144 32 26 64767 1 0 2",
   "8953 32 26 9143 32 26 64768 1 0 2 8953 32 26 9144 32 26 64769 1 0 2 8943 32 26 9143 32 26",
   "64770 1 0 2 8943 32 26 9144 32 26 64771 1 0 2 8954 32 26 9143 32 26 64772 1 0 2 8954 32 26",
   "9144 32 26 64773 1 0 2 9009 32 26 9143 32 26 64774 1 0 2 9009 32 26 9144 32 26 64775 1 0 2",
   "9010 32 26 9143 32 26 64776 1 0 2 9010 32 26 9144 32 26 64777 1 0 2 8999 32 26 8943 32 26",
   "64778 1 0 2 8999 32 26 8953 32 26 64779 1 0 2 8999 32 26 8954 32 26 64780 1 0 2 8999 32 26",
   "9109 32 26 64781 1 0 2 8999 32 26 8979 32 26 64782 1 0 2 8998 32 26 8979 32 26 64783 1 0 2",
   "9009 32 26 8979 32 26 64784 1 0 2 9010 32 26 8979 32 26 64785 1 0 2 9015 32 25 9143 32 25",
   "64786 1 0 2 9015 32 25 9144 32 25 64787 1 0 2 9019 32 25 9143 32 25 64788 1 0 2 9019 32 25",
   "9144 32 25 64789 1 0 2 9020 32 25 9143 32 25 64790 1 0 2 9020 32 25 9144 32 25 64791 1 0 2",
   "8998 32 25 9143 32 25 64792 1 0 2 8998 32 25 9144 32 25 64793 1 0 2 8999 32 25 9143 32 25",
   "64794 1 0 2 8999 32 25 9144 32 25 64795 1 0 2 8953 32 25 9143 32 25 64796 1 0 2 8953 32 25",
   "9144 32 25 64797 1 0 2 8943 32 25 9143 32 25 64798 1 0 2 8943 32 25 9144 32 25 64799 1 0 2",
   "8954 32 25 9143 32 25 64800 1 0 2 8954 32 25 9144 32 25 64801 1 0 2 9009 32 25 9143 32 25",
   "64802 1 0 2 9009 32 25 9144 32 25 64803 1 0 2 9010 32 25 9143 32 25 64804 1 0 2 9010 32 25",
   "9144 32 25 64805 1 0 2 8999 32 25 8943 32 25 64806 1 0 2 8999 32 25 8953 32 25 64807 1 0 2",
   "8999 32 25 8954 32 25 64808 1 0 2 8999 32 25 9109 32 25 64809 1 0 2 8999 32 25 8979 32 25",
   "64810 1 0 2 8998 32 25 8979 32 25 64811 1 0 2 9009 32 25 8979 32 25 64812 1 0 2 9010 32 25",
   "8979 32 25 64813 1 0 2 8999 32 23 8943 32 23 64814 1 0 2 8999 32 23 8953 32 23 64815 1 0 2",
   "8999 32 23 8954 32 23 64816 1 0 2 8999 32 23 9109 32 23 64817 1 0 2 8998 32 23 9123 32 23",
   "64818 1 0 2 8999 32 23 9123 32 23 64819 1 0 2 9015 32 23 9109 32 23 64820 1 0 2 8998 32 24",
   "8943 32 24 64821 1 0 2 8998 32 24 8953 32 24 64822 1 0 2 8998 32 24 8954 32 24 64823 1 0 2",
   "8999 32 24 8943 32 24 64824 1 0 2 8999 32 24 8953 32 24 64825 1 0 2 8999 32 24 8954 32 24",
   "64826 1 0 2 9015 32 24 9109 32 24 64827 1 0 2 9016 32 24 9109 32 24 64828 1 0 2 8914 32 25 0",
   "109 25 64829 1 0 2 8914 32 26 0 109 26 64848 1 0 3 8933 32 23 8943 32 23 9109 32 23 64849 1 0",
   "3 8933 32 25 8953 32 25 8943 32 25 64850 1 0 3 8933 32 23 8953 32 23 8943 32 23 64851 1 0 3",
   "8933 32 23 8953 32 23 9109 32 23 64852 1 0 3 8933 32 23 8954 32 23 9109 32 23 64853 1 0 3 8933",
   "32 23 9109 32 23 8943 32 23 64854 1 0 3 8933 32 23 9109 32 23 8953 32 23 64855 1 0 3 8933 32",
   "23 9109 32 23 8954 32 23 64856 1 0 3 8943 32 25 9109 32 25 8953 32 25 64857 1 0 3 8943 32 23",
   "9109 32 23 8953 32 23 64858 1 0 3 8953 32 25 9109 32 25 9144 32 25 64859 1 0 3 8953 32 25 9109",
   "32 25 9143 32 25 64860 1 0 3 8998 32 23 8953 32 23 8943 32 23 64861 1 0 3 8998 32 23 8943 32",
   "23 8953 32 23 64862 1 0 3 8998 32 25 8943 32 25 9143 32 25 64863 1 0 3 8998 32 25 9109 32 25",
   "8953 32 25 64864 1 0 3 8998 32 23 9109 32 23 8953 32 23 64865 1 0 3 8998 32 23 9109 32 23 8943",
   "32 23 64866 1 0 3 8998 32 25 9109 32 25 9109 32 25 64867 1 0 3 8998 32 23 9109 32 23 9109 32",
   "23 64868 1 0 3 9009 32 25 8953 32 25 8953 32 25 64869 1 0 3 9009 32 23 8953 32 23 8953 32 23",
   "64870 1 0 3 9009 32 25 9109 32 25 9109 32 25 64871 1 0 3 8999 32 25 8953 32 25 9109 32 25",
   "64872 1 0 3 8999 32 23 8953 32 23 9109 32 23 64873 1 0 3 8999 32 25 8943 32 25 9144 32 25",
   "64874 1 0 3 8999 32 25 9109 32 25 8954 32 25 64875 1 0 3 8999 32 23 9109 32 23 8954 32 23",
   "64876 1 0 3 8999 32 25 9109 32 25 9109 32 25 64877 1 0 3 8999 32 23 9109 32 23 9109 32 23",
   "64878 1 0 3 9010 32 25 8953 32 25 9143 32 25 64879 1 0 3 9010 32 25 8954 32 25 9109 32 25",
   "64880 1 0 3 9010 32 23 8954 32 23 9109 32 23 64881 1 0 3 9015 32 25 9109 32 25 8953 32 25",
   "64882 1 0 3 9015 32 23 9109 32 23 8953 32 23 64883 1 0 3 9015 32 23 9109 32 23 9109 32 23",
   "64884 1 0 3 9015 32 25 9109 32 25 9144 32 25 64885 1 0 3 9019 32 25 8943 32 25 9109 32 25",
   "64886 1 0 3 9019 32 25 9109 32 25 9109 32 25 64887 1 0 3 9019 32 23 9109 32 23 9109 32 23",
   "64888 1 0 3 9019 32 25 9109 32 25 9143 32 25 64889 1 0 3 9020 32 25 9109 32 25 9109 32 25",
   "64890 1 0 3 9020 32 25 9109 32 25 9144 32 25 64891 1 0 3 9020 32 25 9109 32 25 9143 32 25",
   "64892 1 0 3 9028 32 25 8954 32 25 9109 32 25 64893 1 0 3 9028 32 23 8954 32 23 9109 32 23",
   "64894 1 0 3 9040 32 25 9109 32 25 8953 32 25 64895 1 0 3 9040 32 25 9109 32 25 9109 32 25",
   "64896 1 0 3 9099 32 25 8953 32 25 9109 32 25 64897 1 0 3 9099 32 25 8953 32 25 9144 32 25",
   "64898 1 0 3 9099 32 25 8953 32 25 9143 32 25 64899 1 0 3 9099 32 23 8943 32 23 8943 32 23",
   "64900 1 0 3 9099 32 25 8943 32 25 8943 32 25 64901 1 0 3 9099 32 25 8954 32 25 9109 32 25",
   "64902 1 0 3 9099 32 23 8954 32 23 9109 32 23 64903 1 0 3 9099 32 25 9109 32 25 8953 32 25",
   "64904 1 0 3 9099 32 23 9109 32 23 8953 32 23 64905 1 0 3 9109 32 23 8953 32 23 8943 32 23",
   "64906 1 0 3 9109 32 23 8953 32 23 9109 32 23 64907 1 0 3 9109 32 25 8953 32 25 9144 32 25",
   "64908 1 0 3 9109 32 23 8943 32 23 8953 32 23 64909 1 0 3 9109 32 23 8943 32 23 9109 32 23",
   "64910 1 0 3 9109 32 23 8954 32 23 8943 32 23 64911 1 0 3 9109 32 23 8954 32 23 9109 32 23",
   "64914 1 0 3 9109 32 23 8943 32 23 8954 32 23 64915 1 0 3 9123 32 23 9109 32 23 8943 32 23",
   "64916 1 0 3 9123 32 23 9109 32 23 9109 32 23 64917 1 0 3 9113 32 23 8953 32 23 9109 32 23",
   "64918 1 0 3 9113 32 25 8953 32 25 9143 32 25 64919 1 0 3 9113 32 25 8943 32 25 9109 32 25",
   "64920 1 0 3 9113 32 23 8943 32 23 9109 32 23 64921 1 0 3 9113 32 25 8943 32 25 9143 32 25",
   "64922 1 0 3 9113 32 25 9109 32 25 9144 32 25 64923 1 0 3 9113 32 25 9109 32 25 9143 32 25",
   "64924 1 0 3 9144 32 25 9109 32 25 9109 32 25 64925 1 0 3 9144 32 23 9109 32 23 9109 32 23",
   "64926 1 0 3 8916 32 25 8954 32 25 9144 32 25 64927 1 0 3 8933 32 25 8943 32 25 9144 32 25",
   "64928 1 0 3 8933 32 25 8943 32 25 9143 32 25 64929 1 0 3 8933 32 25 8954 32 25 9144 32 25",
   "64930 1 0 3 8933 32 25 8954 32 25 9143 32 25 64931 1 0 3 8933 32 25 9109 32 25 9144 32 25",
   "64932 1 0 3 8933 32 25 9109 32 25 9143 32 25 64933 1 0 3 8943 32 25 9109 32 25 9144 32 25",
   "64934 1 0 3 8943 32 25 8953 32 25 9143 32 25 64935 1 0 3 8943 32 25 9109 32 25 9143 32 25",
   "64936 1 0 3 8998 32 25 8954 32 25 9143 32 25 64937 1 0 3 9009 32 25 8953 32 25 9144 32 25",
   "64938 1 0 3 8999 32 25 8953 32 25 9144 32 25 64939 1 0 3 9010 32 25 8953 32 25 9144 32 25",
   "64940 1 0 3 9099 32 25 8943 32 25 9144 32 25 64941 1 0 3 9099 32 25 9109 32 25 9144 32 25",
   "64942 1 0 3 9144 32 25 8953 32 25 9144 32 25 64943 1 0 3 9144 32 25 8943 32 25 9144 32 25",
   "64944 1 0 3 9144 32 25 9109 32 25 9144 32 25 64945 1 0 3 9109 32 25 9109 32 25 9144 32 25",
   "64946 1 0 3 9040 32 25 9109 32 25 9144 32 25 64947 1 0 3 9113 32 25 8953 32 25 9144 32 25",
   "64948 1 0 3 9040 32 23 9109 32 23 8953 32 23 64949 1 0 3 9099 32 23 8953 32 23 9109 32 23",
   "64950 1 0 3 9019 32 25 9109 32 25 9144 32 25 64951 1 0 3 9046 32 25 9109 32 25 9144 32 25",
   "64952 1 0 3 9113 32 23 8943 32 23 8953 32 23 64953 1 0 3 9109 32 25 8954 32 25 9144 32 25",
   "64954 1 0 3 9099 32 23 8943 32 23 9109 32 23 64955 1 0 3 9046 32 25 9109 32 25 9109 32 25",
   "64956 1 0 3 9099 32 25 8943 32 25 9109 32 25 64957 1 0 3 9113 32 25 8943 32 25 8953 32 25",
   "64958 1 0 3 8943 32 25 8953 32 25 9144 32 25 64959 1 0 3 8953 32 25 8943 32 25 9144 32 25",
   "64960 1 0 3 9109 32 25 8943 32 25 9144 32 25 64961 1 0 3 9028 32 25 9109 32 25 9144 32 25",
   "64962 1 0 3 8916 32 25 8953 32 25 9144 32 25 64963 1 0 3 9046 32 23 9109 32 23 9109 32 23",
   "64964 1 0 3 9019 32 23 8943 32 23 9109 32 23 64965 1 0 3 9009 32 23 9109 32 23 9109 32 23",
   "64966 1 0 3 8998 32 25 8954 32 25 9144 32 25 64967 1 0 3 9113 32 25 8943 32 25 9144 32 25",
   "65008 1 0 3 9009 32 26 9099 32 26 9158 32 26 65009 1 0 3 9040 32 26 9099 32 26 9158 32 26",
   "65010 1 0 4 8914 32 26 9099 32 26 9099 32 26 9123 32 26 65011 1 0 4 8914 32 26 9046 32 26 8916",
   "32 26 8979 32 26 65012 1 0 4 9109 32 26 8953 32 26 9109 32 26 8964 32 26 65013 1 0 4 9009 32",
   "26 9099 32 26 9019 32 26 9109 32 26 65014 1 0 4 8979 32 26 8998 32 26 9129 32 26 9099 32 26",
   "65015 1 0 4 9019 32 26 9099 32 26 9144 32 26 9123 32 26 65016 1 0 4 9129 32 26 8998 32 26 9099",
   "32 26 9109 32 26 65017 1 0 3 9009 32 26 9099 32 26 9143 32 26 65018 1 0 18 9009 32 26 9099 32",
   "26 9143 32 26 10 32 26 8914 32 26 9099 32 26 9099 32 26 9123 32 26 10 32 26 9019 32 26 9099 32",
   "26 9144 32 26 9123 32 26 10 32 26 9129 32 26 8998 32 26 9099 32 26 9109 32 26 65019 1 0 8 8943",
   "32 26 9099 32 26 10 32 26 8943 32 26 9099 32 26 8914 32 26 9099 32 26 9123 32 26 65024 16 0 0",
   "65047 2 1 1 430 32 22 65049 1 0 3 133 32 22 133 32 22 133 32 22 65057 1 0 0 65059 4 0 0 65064",
   "1 0 0 65066 4 0 0 65071 1 0 0 65072 1 0 2 133 32 22 133 32 22 65075 2 0 1 12 32 22 65077 2 1 1",
   "330 32 22 65079 2 1 1 334 32 22 65081 2 1 1 428 32 22 65083 2 1 1 426 32 22 65085 2 1 1 420 32",
   "22 65087 2 1 1 418 32 22 65089 4 1 1 422 32 22 65095 2 1 1 332 32 22 65097 4 0 1 11 32 4 65101",
   "3 0 1 12 32 4 65113 2 1 1 330 32 15 65115 2 1 1 334 32 15 65117 2 1 1 428 32 15 65139 1 0 0",
   "65152 2 1 1 8900 32 26 65269 1 0 2 9099 32 26 8901 32 26 65270 1 0 2 9099 32 25 8901 32 25",
   "65271 1 0 2 9099 32 26 8902 32 26 65272 1 0 2 9099 32 25 8902 32 25 65273 1 0 2 9099 32 26",
   "8906 32 26 65274 1 0 2 9099 32 25 8906 32 25 65275 1 0 2 9099 32 26 8914 32 26 65276 1 0 2",
   "9099 32 25 8914 32 25 65279 1 0 0 65288 2 1 1 330 32 3 65296 10 1 1 7835 32 3 65308 3 1 1 1197",
   "32 3 65375 2 1 1 352 32 3 65378 2 1 1 422 32 18 65383 3 1 1 16348 32 16 65386 2 1 1 16355 32",
   "16 65388 3 1 1 16387 32 16 65393 3 1 1 16348 32 18 65396 41 1 1 16355 32 18 65441 2 1 1 15991",
   "32 18 65445 2 1 1 16215 32 18 65447 3 1 1 15994 32 18 65450 6 1 1 16219 32 18 65457 3 1 1",
   "15997 32 18 65461 10 1 1 16000 32 18 65474 6 1 1 16117 32 18 65482 6 1 1 16123 32 18 65490 6 1",
   "1 16129 32 18 65498 3 1 1 16135 32 18 65529 3 0 0 66272 1 0 0 66560 40 1 1 18612 32 8 66736 36",
   "1 1 13862 32 8 66928 11 1 1 18961 32 8 66940 15 1 1 18972 32 8 66956 7 1 1 18987 32 8 66964 2",
   "1 1 18994 32 8 67457 2 1 1 7254 32 20 67459 1 0 3 7845 32 4 0 280 4 7892 32 4 67463 1 0 2 7879",
   "32 4 8255 32 4 67464 1 0 2 7879 32 4 8299 32 4 67465 1 0 2 7879 32 4 8300 32 4 67466 1 0 2",
   "7879 32 4 8304 32 4 67467 3 1 1 7885 32 20 67472 1 0 2 7915 32 4 8019 32 4 67475 2 1 1 7930 32",
   "20 67477 1 0 2 7936 32 20 0 57 20 67481 1 0 2 7976 32 4 8099 32 4 67482 1 0 2 7976 32 4 8255",
   "32 4 67490 1 0 2 8021 32 20 0 47 20 67499 1 0 2 8120 32 4 7876 32 4 67500 1 0 2 8120 32 4 8099",
   "32 4 67501 1 0 2 8120 32 4 8109 32 4 67502 1 0 2 8120 32 4 8113 32 4 67507 2 1 1 8344 32 20",
   "67510 3 1 1 8347 32 20 67968 1 0 2 22559 32 4 0 280 4 67969 1 0 2 22560 32 4 0 280 4 67970 1 0",
   "2 22561 32 4 0 280 4 67971 1 0 2 22562 32 4 0 280 4 67972 1 0 2 22563 32 4 0 280 4 67973 1 0 2",
   "22564 32 4 0 280 4 67974 1 0 2 22565 32 4 0 280 4 67975 1 0 2 22565 32 4 0 281 4 67976 1 0 2",
   "22566 32 4 0 280 4 67977 1 0 2 22567 32 4 0 280 4 67978 1 0 2 22568 32 4 0 280 4 67979 1 0 2",
   "22568 32 4 0 281 4 67980 1 0 2 22569 32 4 0 280 4 67981 1 0 2 22569 32 4 0 281 4 67982 1 0 2",
   "22570 32 4 0 280 4 67983 1 0 2 22570 32 4 0 281 4 67984 1 0 2 22571 32 4 0 280 4 67985 1 0 2",
   "22572 32 4 0 280 4 67986 1 0 2 22573 32 4 0 280 4 67987 1 0 2 22574 32 4 0 281 4 67988 1 0 2",
   "22574 32 4 0 282 4 67989 1 0 2 22575 32 4 0 280 4 67990 1 0 2 22576 32 4 0 280 4 67991 1 0 2",
   "22577 32 4 0 280 4 67992 1 0 2 22578 32 4 0 280 4 67993 1 0 2 22578 32 4 0 281 4 67994 1 0 2",
   "22579 32 4 0 280 4 67995 1 0 2 22579 32 4 0 281 4 67996 1 0 2 22580 32 4 0 280 4 67997 1 0 2",
   "22581 32 4 0 280 4 68016 1 0 2 22574 32 4 0 280 4 68296 1 0 2 20121 32 4 0 281 4 68398 1 0 2",
   "19938 32 4 0 280 4 68609 1 0 2 14734 32 4 0 280 4 68612 1 0 2 14736 32 4 0 280 4 68616 1 0 2",
   "14739 32 4 0 280 4 68618 1 0 2 14740 32 4 0 280 4 68620 1 0 2 14741 32 4 0 280 4 68622 1 0 2",
   "14742 32 4 0 280 4 68624 1 0 2 14743 32 4 0 280 4 68626 1 0 2 14744 32 4 0 280 4 68629 1 0 2",
   "14746 32 4 0 280 4 68631 1 0 2 14747 32 4 0 280 4 68633 1 0 2 14748 32 4 0 280 4 68635 1 0 2",
   "14749 32 4 0 280 4 68637 1 0 2 14750 32 4 0 280 4 68639 1 0 2 14751 32 4 0 280 4 68645 1 0 2",
   "14756 32 4 0 280 4 68647 1 0 2 14757 32 4 0 280 4 68649 1 0 2 14758 32 4 0 280 4 68651 1 0 2",
   "14759 32 4 0 280 4 68654 1 0 2 14761 32 4 0 280 4 68659 1 0 2 14765 32 4 0 280 4 68661 1 0 2",
   "14766 32 4 0 280 4 68663 1 0 2 14767 32 4 0 280 4 68665 1 0 2 14768 32 4 0 280 4 68667 1 0 2",
   "14769 32 4 0 280 4 68672 1 0 2 14773 32 4 0 280 4 68674 1 0 2 14774 32 4 0 280 4 68676 1 0 2",
   "14775 32 4 0 280 4 68678 1 0 2 14776 32 4 0 280 4 68737 1 0 2 14693 32 10 0 280 4 68738 8 1 1",
   "14694 32 8 68746 1 0 2 14701 32 10 0 280 4 68747 1 0 2 14701 32 10 0 281 4 68748 5 1 1 14702",
   "32 8 68753 1 0 2 14706 32 10 0 280 4 68754 10 1 1 14707 32 8 68764 1 0 2 14716 32 10 0 280 4",
   "68766 1 0 2 14717 32 10 0 280 4 68767 1 0 2 14717 32 10 0 281 4 68768 3 1 1 14718 32 8 68771 1",
   "0 2 14720 32 10 0 280 4 68772 7 1 1 14721 32 8 68779 1 0 2 14727 32 10 0 280 4 68781 1 0 2",
   "14728 32 10 0 280 4 68782 5 1 1 14729 32 8 68801 1 0 2 14693 32 4 0 280 4 68810 1 0 2 14701 32",
   "4 0 280 4 68811 1 0 2 14701 32 4 0 281 4 68817 1 0 2 14706 32 4 0 280 4 68828 1 0 2 14716 32 4",
   "0 280 4 68830 1 0 2 14717 32 4 0 280 4 68831 1 0 2 14717 32 4 0 281 4 68835 1 0 2 14720 32 4 0",
   "280 4 68843 1 0 2 14727 32 4 0 280 4 68845 1 0 2 14728 32 4 0 280 4 68900 4 0 1 0 51 2 69373 3",
   "0 1 0 130 2 69392 1 0 2 20161 32 4 0 281 4 69395 1 0 2 20163 32 4 0 281 4 69399 1 0 2 20165 32",
   "4 0 281 4 69404 1 0 2 20168 32 4 0 281 4 69415 1 0 2 20163 32 4 20166 32 4 69445 1 0 2 20186",
   "32 4 0 281 4 69446 2 0 1 0 52 2 69448 3 0 1 0 51 2 69453 4 0 1 0 52 2 69506 4 0 1 0 52 2 69622",
   "1 0 2 20098 32 4 20101 32 4 69821 1 0 0 69837 1 0 0 70459 2 0 1 0 194 2 70502 7 0 0 70512 5 0",
   "0 71128 1 0 2 11245 32 4 0 280 4 71129 1 0 2 11245 32 4 0 281 4 71130 1 0 2 11246 32 4 0 280 4",
   "71131 1 0 2 11247 32 4 0 280 4 71132 1 0 2 11293 32 4 0 280 4 71133 1 0 2 11294 32 4 0 280 4",
   "71429 1 0 2 11597 32 4 0 280 4 71446 1 0 2 11613 32 4 0 280 4 71450 1 0 2 11600 32 4 0 280 4",
   "71840 32 1 1 18114 32 8 72245 3 0 1 0 195 2 72251 4 1 1 12298 32 25 72326 2 1 1 12364 32 23",
   "72334 2 1 1 12351 32 25 72337 2 1 1 12364 32 25 78896 16 0 0 93760 32 1 1 15924 32 8 93844 1 0",
   "2 7836 32 4 0 280 4 93845 1 0 2 7837 32 4 0 280 4 93846 1 0 2 7838 32 2 0 280 2 94180 1 0 0",
   "110928 3 1 1 16396 32 13 110948 4 1 1 16396 32 15 113824 4 0 0 119141 5 0 0 119149 22 0 0",
   "119173 7 0 0 119210 4 0 0 119362 3 0 0 120488 3 1 1 8355 32 11 120491 2 1 1 8359 32 11 120494",
   "3 1 1 8366 32 11 120497 2 1 1 8370 32 11 120499 5 1 1 8373 32 11 120507 5 1 1 8389 32 11",
   "120514 3 1 1 8355 32 5 120517 2 1 1 8359 32 5 120520 3 1 1 8366 32 5 120523 2 1 1 8370 32 5",
   "120525 5 1 1 8373 32 5 120531 2 0 1 8385 32 5 120533 5 1 1 8389 32 5 120546 3 1 1 8355 32 11",
   "120549 2 1 1 8359 32 11 120552 3 1 1 8366 32 11 120555 2 1 1 8370 32 11 120557 5 1 1 8373 32",
   "11 120565 5 1 1 8389 32 11 120572 3 1 1 8355 32 5 120575 2 1 1 8359 32 5 120578 3 1 1 8366 32",
   "5 120581 2 1 1 8370 32 5 120583 5 1 1 8373 32 5 120589 2 0 1 8385 32 5 120591 5 1 1 8389 32 5",
   "120604 3 1 1 8355 32 11 120607 2 1 1 8359 32 11 120610 3 1 1 8366 32 11 120613 2 1 1 8370 32",
   "11 120615 5 1 1 8373 32 11 120623 5 1 1 8389 32 11 120630 3 1 1 8355 32 5 120633 2 1 1 8359 32",
   "5 120636 3 1 1 8366 32 5 120639 2 1 1 8370 32 5 120641 5 1 1 8373 32 5 120647 2 0 1 8385 32 5",
   "120649 5 1 1 8389 32 5 120662 3 1 1 8355 32 11 120665 2 1 1 8359 32 11 120668 3 1 1 8366 32 11",
   "120671 2 1 1 8370 32 11 120673 5 1 1 8373 32 11 120681 5 1 1 8389 32 11 120688 3 1 1 8355 32 5",
   "120691 2 1 1 8359 32 5 120694 3 1 1 8366 32 5 120697 2 1 1 8370 32 5 120699 5 1 1 8373 32 5",
   "120705 2 0 1 8385 32 5 120707 5 1 1 8389 32 5 120720 3 1 1 8355 32 11 120723 2 1 1 8359 32 11",
   "120726 3 1 1 8366 32 11 120729 2 1 1 8370 32 11 120731 5 1 1 8373 32 11 120739 5 1 1 8389 32",
   "11 120746 3 1 1 8355 32 5 120749 2 1 1 8359 32 5 120752 3 1 1 8366 32 5 120755 2 1 1 8370 32 5",
   "120757 5 1 1 8373 32 5 120763 2 0 1 8385 32 5 120765 5 1 1 8389 32 5 120782 10 1 1 7835 32 5",
   "120792 10 1 1 7835 32 5 120802 10 1 1 7835 32 5 120812 10 1 1 7835 32 5 120822 10 1 1 7835 32",
   "5 121344 55 0 0 121403 50 0 0 121461 1 0 0 121476 1 0 0 121499 5 0 0 121505 15 0 0 122880 7 1",
   "1 8617 32 4 122888 17 1 1 8625 32 4 122907 7 1 1 8644 32 4 122915 2 1 1 8652 32 4 122918 5 1 1",
   "8655 32 4 122929 3 1 1 8463 32 20 122946 2 1 1 8554 32 20 122952 2 1 1 8595 32 20 122962 3 1 1",
   "8463 32 21 122976 2 1 1 8554 32 21 122983 1 0 2 8465 32 4 0 281 4 124140 4 0 1 0 256 2 125136",
   "7 0 0 125184 34 1 1 15956 32 8 125252 3 0 1 0 189 2 126129 1 0 2 7836 32 4 0 280 4 126130 1 0",
   "2 7837 32 4 0 280 4 126255 1 0 2 7837 32 4 0 280 4 126256 1 0 2 7838 32 4 0 280 4 126257 1 0 2",
   "7839 32 4 0 280 4 126258 1 0 2 7840 32 4 0 280 4 126259 1 0 2 7841 32 4 0 280 4 126260 1 0 2",
   "7842 32 4 0 280 4 126261 1 0 2 7843 32 4 0 280 4 126262 1 0 2 7844 32 4 0 280 4 126485 2 1 1",
   "8933 32 5 126517 2 1 1 8933 32 5 126581 2 1 1 8933 32 5 126613 2 1 1 8933 32 5 126645 2 1 1",
   "8933 32 5 127232 1 0 2 7835 32 4 133 32 4 127233 1 0 2 7835 32 4 38 32 4 127234 1 0 2 7836 32",
   "4 38 32 4 127235 1 0 2 7837 32 4 38 32 4 127236 1 0 2 7838 32 4 38 32 4 127237 1 0 2 7839 32 4",
   "38 32 4 127238 1 0 2 7840 32 4 38 32 4 127239 1 0 2 7841 32 4 38 32 4 127240 1 0 2 7842 32 4",
   "38 32 4 127241 1 0 2 7843 32 4 38 32 4 127242 1 0 2 7844 32 4 38 32 4 127243 2 0 1 7835 32 6",
   "127248 1 0 3 330 32 4 7845 32 10 331 32 4 127249 1 0 3 330 32 4 7859 32 10 331 32 4 127250 1 0",
   "3 330 32 4 7870 32 10 331 32 4 127251 1 0 3 330 32 4 7879 32 10 331 32 4 127252 1 0 3 330 32 4",
   "7892 32 10 331 32 4 127253 1 0 3 330 32 4 7915 32 10 331 32 4 127254 1 0 3 330 32 4 7924 32 10",
   "331 32 4 127255 1 0 3 330 32 4 7936 32 10 331 32 4 127256 1 0 3 330 32 4 7948 32 10 331 32 4",
   "127257 1 0 3 330 32 4 7960 32 10 331 32 4 127258 1 0 3 330 32 4 7967 32 10 331 32 4 127259 1 0",
   "3 330 32 4 7976 32 10 331 32 4 127260 1 0 3 330 32 4 7997 32 10 331 32 4 127261 1 0 3 330 32 4",
   "8006 32 10 331 32 4 127262 1 0 3 330 32 4 8021 32 10 331 32 4 127263 1 0 3 330 32 4 8050 32 10",
   "331 32 4 127264 1 0 3 330 32 4 8062 32 10 331 32 4 127265 1 0 3 330 32 4 8069 32 10 331 32 4",
   "127266 1 0 3 330 32 4 8099 32 10 331 32 4 127267 1 0 3 330 32 4 8120 32 10 331 32 4 127268 1 0",
   "3 330 32 4 8131 32 10 331 32 4 127269 1 0 3 330 32 4 8156 32 10 331 32 4 127270 1 0 3 330 32 4",
   "8165 32 10 331 32 4 127271 1 0 3 330 32 4 8239 32 10 331 32 4 127272 1 0 3 330 32 4 8248 32 10",
   "331 32 4 127273 1 0 3 330 32 4 8255 32 10 331 32 4 127274 1 0 3 428 32 4 8099 32 10 429 32 4",
   "127277 1 0 2 7870 32 12 7879 32 12 127278 1 0 2 8165 32 12 8255 32 12 127306 1 0 2 7936 32 29",
   "8156 32 29 127307 1 0 2 7997 32 29 8156 32 29 127308 1 0 2 8099 32 29 7879 32 29 127309 1 0 2",
   "8099 32 29 8099 32 29 127310 1 0 3 8050 32 29 8050 32 29 8156 32 29 127311 1 0 2 8165 32 29",
   "7870 32 29 127338 1 0 2 7997 32 20 7870 32 20 127339 1 0 2 7997 32 20 7879 32 20 127340 1 0 2",
   "7997 32 20 8069 32 20 127371 1 0 2 7948 32 29 7870 32 29 127372 1 0 2 8050 32 29 7845 32 29",
   "127373 1 0 2 8099 32 29 7845 32 29 127374 1 0 2 7845 32 29 7859 32 29 127375 1 0 2 8165 32 29",
   "7870 32 29 127376 1 0 2 7879 32 29 7960 32 29 127377 1 0 2 7870 32 29 7976 32 29 127378 1 0 4",
   "7870 32 29 8021 32 29 8021 32 29 7976 32 29 127379 1 0 4 7915 32 29 8069 32 29 7892 32 29 7892",
   "32 29 127380 1 0 2 7948 32 29 7879 32 29 127381 1 0 3 8006 32 29 7892 32 29 8165 32 29 127382",
   "1 0 2 8006 32 29 7924 32 29 127383 1 0 2 8021 32 29 7967 32 29 127384 1 0 3 8099 32 29 8021 32",
   "29 8099 32 29 127385 1 0 3 8131 32 29 8050 32 29 107 32 28 127386 1 0 2 8156 32 29 8099 32 29",
   "127387 1 0 2 7838 32 28 7879 32 29 127388 1 0 7 7837 32 28 8006 32 28 7879 32 28 10 32 28 8099",
   "32 29 7870 32 28 8069 32 28 127389 1 0 2 7837 32 28 7967 32 29 127390 1 0 2 7839 32 28 7967 32",
   "29 127391 1 0 2 7843 32 28 7967 32 29 127392 1 0 3 7840 32 28 133 32 28 7836 32 28 127393 1 0",
   "3 7842 32 28 133 32 28 7836 32 28 127394 1 0 4 7837 32 28 7837 32 28 133 32 28 7837 32 28",
   "127395 1 0 3 7841 32 28 7835 32 28 8050 32 29 127396 1 0 4 7836 32 28 7837 32 28 7835 32 28",
   "8050 32 29 127398 1 0 2 7936 32 29 7870 32 28 127399 1 0 3 7936 32 29 7879 32 28 8069 32 29",
   "127400 1 0 6 7936 32 29 7948 32 28 10 32 28 8069 32 29 7892 32 28 8099 32 28 127401 1 0 8 7976",
   "32 29 8021 32 28 8099 32 28 8099 32 28 7976 32 28 7892 32 28 8099 32 28 8099 32 28 127402 1 0",
   "3 8099 32 29 7936 32 29 8156 32 29 127403 1 0 3 8131 32 29 7936 32 29 7879 32 29 127404 1 0 3",
   "8156 32 29 8021 32 29 7879 32 29 127488 1 0 2 16381 32 28 16357 32 28 127489 1 0 2 16361 32 28",
   "16361 32 28 127507 1 0 2 16370 32 28 0 55 28 127552 1 0 3 428 32 4 8415020 32 4 429 32 4",
   "127553 1 0 3 428 32 4 8408585 32 4 429 32 4 127554 1 0 3 428 32 4 8408716 32 4 429 32 4 127555",
   "1 0 3 428 32 4 8412041 32 4 429 32 4 127556 1 0 3 428 32 4 8417465 32 4 429 32 4 127557 1 0 3",
   "428 32 4 8413779 32 4 429 32 4 127558 1 0 3 428 32 4 8419031 32 4 429 32 4 127559 1 0 3 428 32",
   "4 8409821 32 4 429 32 4 127560 1 0 3 428 32 4 8414551 32 4 429 32 4 130032 10 1 1 7835 32 5",
   "917505 1 0 0 917536 96 0 0 917760 240 0 0"])

/-- All runs. -/
def runs : List Run := letterRuns ++ singleRuns ++ otherRuns

/-- Code points of scripts that are ordered by code point: first, last and the place of the
script. Place four is that of the main block of Han and the ideographs beside it, place five that
of its extensions. -/
def ideographs : List (Nat × Nat × Nat) := Table.triples (Table.numbers
  ["94208 101119 1 101632 101775 1 110960 111359 2 101120 101631 3 19968 40959 4 64014 64015 4",
   "64017 64017 4 64019 64020 4 64031 64031 4 64033 64033 4 64035 64036 4 64039 64041 4",
   "13312 19903 5 131072 173791 5 173824 177977 5 177984 178205 5 178208 183969 5",
   "183984 191456 5 191472 192093 5 196608 201546 5 201552 205743 5"])

/-- The distance of two places, with room for all code points. -/
def placeStep : Nat := 0x200000

/-- The place of the code points that have no rank. -/
def lastPlace : Nat := 6

/-- The elements of a code point. -/
def elements (n : Nat) : List Element :=
  match ideographs.find? fun (first, last, _) => first ≤ n && n ≤ last with
  | some (_, _, place) => [.plain (place * placeStep + n)]
  | none =>
    match runs.find? fun r => r.covers n with
    | some r => r.elementsAt n
    | none => [.plain (lastPlace * placeStep + n)]

end Collation

end ShapedTree
